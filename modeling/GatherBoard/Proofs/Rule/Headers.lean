import GatherBoard.Proofs.Outcome
import GatherBoard.Rule.Header

/-!
# Headers word by word

The words of a header are read one by one, and so are the segments of a gather
expression: what a header states is what its words state, put together in their
order. A segment gives one clause, or one problem for the first of its parts that
is no atom, or nothing if it has no parts.
-/

namespace GatherBoard

/-- Expressions put together in their order. -/
def Expression.concat (es : List Expression) : Expression :=
  ⟨es.flatMap Expression.clauses, es.flatMap Expression.diagnostics⟩

/-- What one segment says that stands in the given tag. -/
def readSegment (tag segment : Text) : Except Overlong Expression :=
  if (atomTexts segment).isEmpty then .ok ⟨[], []⟩
  else
    match readAtoms (atomTexts segment) with
    | .error (.overlong digits) => .error ⟨digits⟩
    | .error (.malformed cause) => .ok ⟨[], [⟨tag, .dropped segment cause⟩]⟩
    | .ok atoms => .ok ⟨[⟨atoms⟩], []⟩

/-- Atoms are read one by one. -/
theorem readAtoms_eq_mapM (parts : List Text) : readAtoms parts = parts.mapM Atom.read := by
  induction parts with
  | nil => rfl
  | cons part parts ih => rw [readAtoms, List.mapM_cons, ih]

/-- An expression before another. -/
def Expression.append (e rest : Expression) : Expression :=
  ⟨e.clauses ++ rest.clauses, e.diagnostics ++ rest.diagnostics⟩

/-- The first segment is read before the others. -/
theorem readSegments_cons (tag segment : Text) (more : List Text) :
    readSegments tag (segment :: more) =
      readSegment tag segment >>= fun e => (readSegments tag more).map e.append := by
  rw [readSegments]
  unfold readSegment
  by_cases hp : (atomTexts segment).isEmpty = true
  · rw [if_pos hp, if_pos hp]
    cases readSegments tag more <;> rfl
  · rw [if_neg hp, if_neg hp]
    cases hr : readAtoms (atomTexts segment) with
    | ok atoms =>
      simp only [bind, Except.bind]
      cases readSegments tag more <;> rfl
    | error cause =>
      cases cause with
      | overlong digits => rfl
      | malformed cause =>
        simp only [bind, Except.bind]
        cases readSegments tag more <;> rfl

/-- Segments are read one by one. -/
theorem readSegments_eq (tag : Text) (segments : List Text) :
    readSegments tag segments = (segments.mapM (readSegment tag)).map Expression.concat := by
  induction segments with
  | nil => rfl
  | cons segment more ih =>
    rw [readSegments_cons, List.mapM_cons, ih]
    cases readSegment tag segment with
    | error cause => rfl
    | ok e => cases more.mapM (readSegment tag) <;> rfl

/-- What one word of a header says about cards to gather. -/
def readWord (word : Text) : Except Overlong Expression :=
  match gatherMark.isPrefixOf? word with
  | some expression => Expression.read word expression
  | none => .ok ⟨[], []⟩

/-- The order that one word of a header asks for. -/
def orderOf? (word : Text) : Option CardOrder := (orderMark.isPrefixOf? word).bind CardOrder.read?

/-- The characters of the mark of gather tags. -/
theorem gatherMark_eq : gatherMark = ['#', 'g', 'a', 't', 'h', 'e', 'r', '_'] := by decide

/-- The characters of the mark of order tags. -/
theorem orderMark_eq : orderMark = ['#', 's', 'o', 'r', 't', '-'] := by decide

namespace ColumnRules

/-- A gather tag is no other tag. -/
theorem not_other_of_gather {word expression : Text}
    (h : gatherMark.isPrefixOf? word = some expression) :
    (ungatheredTag == word) = false ∧ (unsortedTag == word) = false ∧ orderOf? word = none := by
  have hu : gatherMark.isPrefixOf? ungatheredTag = none := by decide
  have hs : gatherMark.isPrefixOf? unsortedTag = none := by decide
  refine ⟨?_, ?_, ?_⟩
  · rw [beq_eq_false_iff_ne]
    rintro rfl
    rw [hu] at h
    cases h
  · rw [beq_eq_false_iff_ne]
    rintro rfl
    rw [hs] at h
    cases h
  · rw [List.isPrefixOf?_eq_some_iff_append_eq, gatherMark_eq] at h
    rw [← h, orderOf?, orderMark_eq]
    simp [List.isPrefixOf?]

/-- A fallback tag asks for no order. -/
theorem orderOf?_fallback : orderOf? ungatheredTag = none ∧ orderOf? unsortedTag = none := by
  decide

/-- The rules together with what a word says. -/
def extend (rules : ColumnRules) (word : Text) (e : Expression) : ColumnRules where
  clauses := rules.clauses ++ e.clauses
  ungathered := rules.ungathered || ungatheredTag == word
  unsorted := rules.unsorted || unsortedTag == word
  orders := rules.orders ++ (orderOf? word).toList
  diagnostics := rules.diagnostics ++ e.diagnostics

/-- A word adds what it says. -/
theorem addWord_eq (rules : ColumnRules) (word : Text) :
    rules.addWord word = (readWord word).map (rules.extend word) := by
  unfold addWord readWord
  cases hg : gatherMark.isPrefixOf? word with
  | some expression =>
    obtain ⟨hu, hs, ho⟩ := not_other_of_gather hg
    have he (e : Expression) : rules.extend word e =
        { rules with
          clauses := rules.clauses ++ e.clauses
          diagnostics := rules.diagnostics ++ e.diagnostics } := by
      simp [extend, hu, hs, ho]
    simp only [bind, Except.bind]
    cases Expression.read word expression with
    | error cause => rfl
    | ok e => exact congrArg Except.ok (he e).symm
  | none =>
    have ho : (orderMark.isPrefixOf? word).bind CardOrder.read? = orderOf? word := rfl
    by_cases hu : word = ungatheredTag
    · subst hu
      have hs : unsortedTag ≠ ungatheredTag := by decide
      simp [extend, hs, orderOf?_fallback.1, Except.map]
    · have hbu : (ungatheredTag == word) = false := by simpa using Ne.symm hu
      by_cases hs : word = unsortedTag
      · subst hs
        simp [extend, hbu, hu, orderOf?_fallback.2, Except.map]
      · have hbs : (unsortedTag == word) = false := by simpa using Ne.symm hs
        simp only [ho, if_neg hu, if_neg hs]
        cases h : orderOf? word <;> simp [extend, hbu, hbs, h, Except.map]

/-- Words add what they say in their order. -/
theorem foldlM_addWord (words : List Text) (rules : ColumnRules) :
    words.foldlM addWord rules = (words.mapM readWord).map fun es =>
      { clauses := rules.clauses ++ es.flatMap Expression.clauses
        ungathered := rules.ungathered || words.contains ungatheredTag
        unsorted := rules.unsorted || words.contains unsortedTag
        orders := rules.orders ++ words.filterMap orderOf?
        diagnostics := rules.diagnostics ++ es.flatMap Expression.diagnostics } := by
  induction words generalizing rules with
  | nil => simp [Except.map, pure, Except.pure]
  | cons word words ih =>
    rw [List.foldlM_cons, List.mapM_cons, addWord_eq]
    cases readWord word with
    | error cause => rfl
    | ok e =>
      simp only [Except.map, bind, Except.bind, ih]
      cases words.mapM readWord with
      | error cause => rfl
      | ok es =>
        cases ho : orderOf? word <;>
          simp [extend, ho, Bool.or_assoc, pure, Except.pure, List.contains_cons,
            -List.contains_eq_mem]

/-- A header states what its words say. -/
theorem read_eq (header : Text) :
    ColumnRules.read header = ((Text.words header).mapM readWord).map fun es =>
      { clauses := es.flatMap Expression.clauses
        ungathered := (Text.words header).contains ungatheredTag
        unsorted := (Text.words header).contains unsortedTag
        orders := (Text.words header).filterMap orderOf?
        diagnostics := es.flatMap Expression.diagnostics } := by
  rw [ColumnRules.read, foldlM_addWord]
  simp [empty]

end ColumnRules

/-- The header has one of the two tags of a fallback column. -/
def HasFallbackTag (header : Text) : Prop :=
  ungatheredTag ∈ Text.words header ∨ unsortedTag ∈ Text.words header

/-- A column is a fallback column if its header has one of the two tags. -/
theorem isFallback_iff_of_read {header : Text} {rules : ColumnRules}
    (h : ColumnRules.read header = .ok rules) : rules.isFallback = true ↔ HasFallbackTag header := by
  rw [ColumnRules.read_eq, map_eq_ok_iff] at h
  obtain ⟨es, -, rfl⟩ := h
  simp [ColumnRules.isFallback, HasFallbackTag]

end GatherBoard
