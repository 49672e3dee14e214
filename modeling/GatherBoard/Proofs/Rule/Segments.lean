import GatherBoard.Proofs.Rule.Headers
import GatherBoard.Proofs.Text.Cuts

/-!
# Headers segment by segment

Each segment of a gather tag either gives one clause, or is dropped with a diagnostic, or
is blank. The clauses of a header and its dropped segments are therefore told segment by
segment, and a header is refused exactly if one of its segments is.
-/

namespace GatherBoard

/-- The segments of a gather tag. Any other word has none. -/
def segmentsOf (word : Text) : List Text :=
  ((gatherMark.isPrefixOf? word).map fun expression => expression.splitOn '|').getD []

/-- The header has this segment in this gather tag. -/
def HasSegment (header tag segment : Text) : Prop :=
  tag ∈ Text.words header ∧ segment ∈ segmentsOf tag

/-- A gather tag is cut into the segments that its expression is joined of. -/
theorem segmentsOf_joinWith {segments : List Text} (h : ∀ segment ∈ segments, '|' ∉ segment)
    (hne : segments ≠ []) : segmentsOf (gatherMark ++ Text.joinWith ['|'] segments) = segments := by
  rw [segmentsOf, List.isPrefixOf?_eq_some_iff_append_eq.mpr rfl, Option.map_some, Option.getD_some]
  exact List.splitOn_intercalate '|' h hne

/-- A gather tag without white space is one word. -/
theorem words_gatherTag {expression : Text} (h : ∀ c ∈ expression, Text.isBlank c = false) :
    Text.words (gatherMark ++ expression) = [gatherMark ++ expression] := by
  have hmark : gatherMark.all (fun c => !Text.isBlank c) = true := by decide
  refine Text.words_eq_singleton (by simp [gatherMark_eq]) ?_
  rw [List.forall_mem_append]
  exact ⟨by simpa using hmark, h⟩

/-- The segments of a header stand in one word and hold no separator of segments. -/
theorem HasSegment.spec {header tag segment : Text} (h : HasSegment header tag segment) :
    segment <:+: tag ∧ '|' ∉ segment := by
  obtain ⟨-, hs⟩ := h
  unfold segmentsOf at hs
  cases he : gatherMark.isPrefixOf? tag with
  | none =>
    rw [he] at hs
    cases hs
  | some expression =>
    rw [he, Option.map_some, Option.getD_some] at hs
    obtain ⟨hi, hbar⟩ := Text.mem_splitOn hs
    have hsuffix : expression <:+: tag := by
      rw [← List.isPrefixOf?_eq_some_iff_append_eq.mp he]
      exact List.IsSuffix.isInfix (List.suffix_append _ _)
    exact ⟨hi.trans hsuffix, hbar⟩

section Segment

variable {tag segment : Text}

/-- A segment is blank, or gives a clause, or is dropped, or is refused. -/
theorem readSegment_cases (tag segment : Text) :
    (atomTexts segment = [] ∧ readSegment tag segment = .ok ⟨[], []⟩) ∨
      (∃ atoms, atomTexts segment ≠ [] ∧ readAtoms (atomTexts segment) = .ok atoms ∧
        readSegment tag segment = .ok ⟨[⟨atoms⟩], []⟩) ∨
      (∃ cause, readAtoms (atomTexts segment) = .error (.malformed cause) ∧
        readSegment tag segment = .ok ⟨[], [⟨tag, .dropped segment cause⟩]⟩) ∨
      ∃ digits, readAtoms (atomTexts segment) = .error (.overlong digits) ∧
        readSegment tag segment = .error ⟨digits⟩ := by
  unfold readSegment
  by_cases hp : atomTexts segment = []
  · exact Or.inl ⟨hp, if_pos (List.isEmpty_iff.mpr hp)⟩
  · right
    rw [if_neg (fun h => hp (List.isEmpty_iff.mp h))]
    cases readAtoms (atomTexts segment) with
    | ok atoms => exact Or.inl ⟨atoms, hp, rfl, rfl⟩
    | error cause =>
      cases cause with
      | malformed cause => exact Or.inr (Or.inl ⟨cause, rfl, rfl⟩)
      | overlong digits => exact Or.inr (Or.inr ⟨digits, rfl, rfl⟩)

/-- A segment gives a clause if it has parts and all of them are atoms. -/
theorem exists_clause_iff {c : Clause} :
    (∃ e, readSegment tag segment = .ok e ∧ c ∈ e.clauses) ↔
      atomTexts segment ≠ [] ∧ readAtoms (atomTexts segment) = .ok c.atoms := by
  obtain ⟨hp, hr⟩ | ⟨atoms, hp, ha, hr⟩ | ⟨cause, ha, hr⟩ | ⟨digits, ha, hr⟩ :=
    readSegment_cases tag segment
  · simp [hp, hr]
  · obtain ⟨atoms'⟩ := c
    simp [hp, ha, hr, eq_comm]
  · simp [ha, hr]
  · simp [ha, hr]

/-- A segment has a diagnostic if one of its parts is no atom. -/
theorem exists_diagnostic_iff {d : Diagnostic} :
    (∃ e, readSegment tag segment = .ok e ∧ d ∈ e.diagnostics) ↔
      ∃ cause, readAtoms (atomTexts segment) = .error (.malformed cause) ∧
        d = ⟨tag, .dropped segment cause⟩ := by
  obtain ⟨hp, hr⟩ | ⟨atoms, hp, ha, hr⟩ | ⟨cause, ha, hr⟩ | ⟨digits, ha, hr⟩ :=
    readSegment_cases tag segment
  · simp [hp, hr, readAtoms]
  · simp [ha, hr]
  · simp [ha, hr]
  · simp [ha, hr]

/-- A segment is read if no integer stops the reading of its parts. -/
theorem exists_readSegment_iff :
    (∃ e, readSegment tag segment = .ok e) ↔
      ∀ digits, readAtoms (atomTexts segment) ≠ .error (.overlong digits) := by
  obtain ⟨hp, hr⟩ | ⟨atoms, hp, ha, hr⟩ | ⟨cause, ha, hr⟩ | ⟨digits, ha, hr⟩ :=
    readSegment_cases tag segment
  · simp [hp, hr, readAtoms]
  · simp [ha, hr]
  · simp [ha, hr]
  · simp [ha, hr]

end Segment

/-- What the segments of a word say. A gather tag whose segments say nothing is a problem. -/
def Expression.ofSegments (word : Text) (es : List Expression) : Expression :=
  if (gatherMark.isPrefixOf? word).isSome && (concat es).clauses.isEmpty &&
      (concat es).diagnostics.isEmpty then ⟨[], [⟨word, .noClause⟩]⟩
  else concat es

/-- A word says what its segments say. -/
theorem readWord_eq (word : Text) :
    readWord word =
      ((segmentsOf word).mapM (readSegment word)).map (Expression.ofSegments word) := by
  unfold readWord segmentsOf Expression.ofSegments
  cases gatherMark.isPrefixOf? word with
  | none => rfl
  | some expression =>
    simp only [Expression.read, readSegments_eq, Option.map_some, Option.getD_some,
      Option.isSome_some, Bool.true_and]
    cases (expression.splitOn '|').mapM (readSegment word) <;> rfl

/-- The clauses of a word are those of its segments. -/
theorem Expression.clauses_ofSegments (word : Text) (es : List Expression) :
    (ofSegments word es).clauses = es.flatMap Expression.clauses := by
  unfold ofSegments
  split
  next h =>
    simp only [Bool.and_eq_true, List.isEmpty_iff] at h
    exact h.1.2.symm
  next => rfl

/-- The dropped segments of a word are those of its segments. -/
theorem Expression.dropped_mem_ofSegments {word tag segment : Text} {cause : Malformed}
    {es : List Expression} :
    ⟨tag, .dropped segment cause⟩ ∈ (ofSegments word es).diagnostics ↔
      ⟨tag, .dropped segment cause⟩ ∈ es.flatMap Expression.diagnostics := by
  unfold ofSegments
  split
  next h =>
    simp only [Bool.and_eq_true, List.isEmpty_iff] at h
    have he : es.flatMap Expression.diagnostics = [] := h.2
    simp [he]
  next => rfl

/-- What the words of a header collect from their segments is collected from the segments
of the header. -/
theorem mem_flatMap_words_iff {γ : Type} {header : Text} {es : List Expression}
    (h : (Text.words header).mapM readWord = .ok es) {g : Expression → List γ} {z : γ}
    (hg : ∀ word es, z ∈ g (Expression.ofSegments word es) ↔ z ∈ es.flatMap g) :
    z ∈ es.flatMap g ↔
      ∃ tag segment, HasSegment header tag segment ∧
        ∃ e, readSegment tag segment = .ok e ∧ z ∈ g e := by
  have hword : ∀ word e, readWord word = .ok e → (z ∈ g e ↔
      ∃ segment ∈ segmentsOf word, ∃ e', readSegment word segment = .ok e' ∧ z ∈ g e') := by
    intro word e hr
    rw [readWord_eq, map_eq_ok_iff] at hr
    obtain ⟨es', hes, rfl⟩ := hr
    rw [hg, mem_flatMap_iff_of_mapM hes]
  rw [mem_flatMap_iff_of_mapM h]
  constructor
  · rintro ⟨word, hw, e, hr, hz⟩
    obtain ⟨segment, hs, he⟩ := (hword word e hr).mp hz
    exact ⟨word, segment, ⟨hw, hs⟩, he⟩
  · rintro ⟨word, segment, ⟨hw, hs⟩, he⟩
    obtain ⟨e, hr⟩ := exists_mapM_iff.mp ⟨es, h⟩ word hw
    exact ⟨word, hw, e, hr, (hword word e hr).mpr ⟨segment, hs, he⟩⟩

namespace ColumnRules

variable {header : Text} {rules : ColumnRules}

/-- The clauses of a header are those of its segments. -/
theorem mem_clauses_iff (h : read header = .ok rules) {c : Clause} :
    c ∈ rules.clauses ↔
      ∃ tag segment, HasSegment header tag segment ∧ atomTexts segment ≠ [] ∧
        readAtoms (atomTexts segment) = .ok c.atoms := by
  rw [read_eq, map_eq_ok_iff] at h
  obtain ⟨es, hes, rfl⟩ := h
  have hm := mem_flatMap_words_iff hes (g := Expression.clauses) (z := c)
    (fun word es => by rw [Expression.clauses_ofSegments])
  simp only [hm, exists_clause_iff]

/-- The dropped segments of a header are those that are malformed. -/
theorem dropped_mem_iff (h : read header = .ok rules) {tag segment : Text} {cause : Malformed} :
    ⟨tag, .dropped segment cause⟩ ∈ rules.diagnostics ↔
      HasSegment header tag segment ∧
        readAtoms (atomTexts segment) = .error (.malformed cause) := by
  rw [read_eq, map_eq_ok_iff] at h
  obtain ⟨es, hes, rfl⟩ := h
  have hm := mem_flatMap_words_iff hes (g := Expression.diagnostics)
    (z := ⟨tag, .dropped segment cause⟩) (fun word es => Expression.dropped_mem_ofSegments)
  simp only [hm, exists_diagnostic_iff]
  constructor
  · rintro ⟨tag', segment', hs, cause', hr, he⟩
    cases he
    exact ⟨hs, hr⟩
  · rintro ⟨hs, hr⟩
    exact ⟨tag, segment, hs, cause, hr, rfl⟩

/-- A header is read if no segment of it is refused. -/
theorem exists_read_iff :
    (∃ rules, read header = .ok rules) ↔
      ∀ tag segment, HasSegment header tag segment →
        ∀ digits, readAtoms (atomTexts segment) ≠ .error (.overlong digits) := by
  simp only [read_eq, exists_map_iff, exists_mapM_iff, readWord_eq, exists_readSegment_iff]
  exact ⟨fun h tag segment hs => h tag hs.1 segment hs.2,
    fun h tag ht segment hs => h tag segment ⟨ht, hs⟩⟩

/-- A header is refused for an integer that stops the reading of one of its segments. -/
theorem exists_segment_of_read_eq_error {cause : Overlong} (h : read header = .error cause) :
    ∃ tag segment, HasSegment header tag segment ∧
      readAtoms (atomTexts segment) = .error (.overlong cause.digits) := by
  rw [read_eq, map_eq_error_iff] at h
  obtain ⟨word, hw, hword⟩ := exists_of_mapM_eq_error h
  rw [readWord_eq, map_eq_error_iff] at hword
  obtain ⟨segment, hs, hsegment⟩ := exists_of_mapM_eq_error hword
  obtain ⟨-, hr⟩ | ⟨atoms, -, -, hr⟩ | ⟨malformed, -, hr⟩ | ⟨digits, ha, hr⟩ :=
    readSegment_cases word segment
  · rw [hr] at hsegment
    cases hsegment
  · rw [hr] at hsegment
    cases hsegment
  · rw [hr] at hsegment
    cases hsegment
  · rw [hr, Except.error.injEq] at hsegment
    subst hsegment
    exact ⟨word, segment, ⟨hw, hs⟩, ha⟩

end ColumnRules

end GatherBoard
