import GatherBoard.Proofs.Rule.Contents

/-!
# Every segment is accounted for

Each segment of a gather tag that has parts gives one clause, if all of its parts are atoms, or
one diagnostic with the reason against the first part that is none. A gather tag without such
segments gives one diagnostic of its own. What a header states is what its words give, in their
order, and the clauses depend on the segments that are clauses alone.
-/

namespace GatherBoard

/-- The clause has the atoms that the parts of the segment are read as. -/
def IsClauseOf (segment : Text) (c : Clause) : Prop :=
  List.Forall₂ (fun part a => Atom.read part = .ok a) (atomTexts segment) c.atoms

/-- Does the segment have parts, all of which are read as atoms? -/
def isClauseText (segment : Text) : Bool :=
  !(atomTexts segment).isEmpty && (atomTexts segment).all fun part => (Atom.read part).isOk

/-- What a segment gives that stands in the given tag. -/
inductive SegmentGives (tag segment : Text) : Expression → Prop
  /-- Nothing, if it has no parts. -/
  | nothing (blank : atomTexts segment = []) : SegmentGives tag segment ⟨[], []⟩
  /-- One clause, if all of its parts are atoms. -/
  | clause {c : Clause} (parts : atomTexts segment ≠ []) (compiled : IsClauseOf segment c) :
    SegmentGives tag segment ⟨[c], []⟩
  /-- One diagnostic, with the reason against the first part that is no atom. -/
  | diagnostic {before after : List Text} {part : Text} {cause : Malformed} {d : Diagnostic}
    (parts : atomTexts segment = before ++ part :: after)
    (compiled : ∀ earlier ∈ before, ∃ a, Atom.read earlier = .ok a)
    (failed : Atom.read part = .error (.malformed cause)) (tagged : d.tag = tag)
    (reason : d.problem.reason =
      "clause '".toList ++ segment ++ "' dropped: ".toList ++ cause.reason) :
    SegmentGives tag segment ⟨[], [d]⟩

/-- What a word of a header gives. -/
inductive WordGives : Text → Expression → Prop
  /-- Nothing, if it is no gather tag. -/
  | other {word : Text} (unmarked : ¬ gatherMark <+: word) : WordGives word ⟨[], []⟩
  /-- What the segments of a gather tag give, in their order, if one of them has parts. -/
  | segments {expression : Text} {es : List Expression}
    (parts : ∃ segment ∈ expression.splitOn '|', atomTexts segment ≠ [])
    (each : List.Forall₂ (SegmentGives (gatherMark ++ expression)) (expression.splitOn '|') es) :
    WordGives (gatherMark ++ expression) (Expression.concat es)
  /-- One diagnostic, if no segment of a gather tag has parts. -/
  | empty {expression : Text} {d : Diagnostic}
    (blank : ∀ segment ∈ expression.splitOn '|', atomTexts segment = [])
    (tagged : d.tag = gatherMark ++ expression)
    (reason : d.problem.reason = "empty gather expression".toList) :
    WordGives (gatherMark ++ expression) ⟨[], [d]⟩

variable {tag segment word : Text} {e : Expression}

/-- The parts of a segment are read together if each of them is an atom. -/
theorem readAtoms_eq_ok_iff {c : Clause} :
    readAtoms (atomTexts segment) = .ok c.atoms ↔ IsClauseOf segment c := by
  rw [readAtoms_eq_mapM, mapM_eq_ok_iff, IsClauseOf]

/-- A segment is a clause if its parts are read together. -/
theorem isClauseText_iff :
    isClauseText segment = true ↔
      atomTexts segment ≠ [] ∧ ∃ atoms, readAtoms (atomTexts segment) = .ok atoms := by
  have hok : ∀ part, (Atom.read part).isOk = true ↔ ∃ a, Atom.read part = .ok a := by
    intro part
    cases Atom.read part <;> simp [Except.isOk, Except.toBool]
  simp only [isClauseText, Bool.and_eq_true, Bool.not_eq_true', List.isEmpty_eq_false_iff,
    List.all_eq_true, hok, readAtoms_eq_mapM, exists_mapM_iff, ne_eq]

/-- What is read of a segment is what it gives. -/
theorem segmentGives_of_readSegment (h : readSegment tag segment = .ok e) :
    SegmentGives tag segment e := by
  obtain ⟨hp, hr⟩ | ⟨atoms, hp, ha, hr⟩ | ⟨cause, ha, hr⟩ | ⟨digits, -, hr⟩ :=
    readSegment_cases tag segment <;> rw [hr] at h <;> cases h
  · exact .nothing hp
  · exact .clause hp (readAtoms_eq_ok_iff.mp ha)
  · rw [readAtoms_eq_mapM, mapM_eq_error_iff] at ha
    obtain ⟨before, part, after, hparts, hok, hfailed⟩ := ha
    exact .diagnostic hparts hok hfailed rfl rfl

/-- A segment without parts gives nothing, and any other segment gives something. -/
theorem SegmentGives.isEmpty_iff (h : SegmentGives tag segment e) :
    atomTexts segment = [] ↔ e.clauses = [] ∧ e.diagnostics = [] := by
  cases h with
  | nothing blank => simp [blank]
  | clause parts compiled => simp [parts]
  | diagnostic parts compiled failed tagged reason => simp [parts]

/-- Segments together give nothing exactly if none of them has parts. -/
theorem concat_isEmpty_iff {segments : List Text} {es : List Expression}
    (h : List.Forall₂ (SegmentGives tag) segments es) :
    (∀ segment ∈ segments, atomTexts segment = []) ↔
      (Expression.concat es).clauses = [] ∧ (Expression.concat es).diagnostics = [] := by
  induction h with
  | nil => simp [Expression.concat]
  | cons he hes ih =>
    simp only [Expression.concat, List.flatMap_cons, List.append_eq_nil_iff] at ih ⊢
    rw [List.forall_mem_cons, he.isEmpty_iff, ih, and_and_and_comm]

/-- What is read of a word is what it gives. -/
theorem wordGives_of_readWord (h : readWord word = .ok e) : WordGives word e := by
  rw [readWord_eq, map_eq_ok_iff] at h
  obtain ⟨es, hes, rfl⟩ := h
  cases hx : gatherMark.isPrefixOf? word with
  | none =>
    have hnone : segmentsOf word = [] := by rw [segmentsOf, hx, Option.map_none, Option.getD_none]
    rw [hnone, mapM_eq_ok_iff, List.forall₂_nil_left_iff] at hes
    subst hes
    have hword : ¬ gatherMark <+: word := by
      rintro ⟨expression, rfl⟩
      rw [List.isPrefixOf?_eq_some_iff_append_eq.mpr rfl] at hx
      cases hx
    simpa [Expression.ofSegments, Expression.concat, hx] using WordGives.other hword
  | some expression =>
    have hsegments : segmentsOf word = expression.splitOn '|' := by
      rw [segmentsOf, hx, Option.map_some, Option.getD_some]
    rw [hsegments, mapM_eq_ok_iff] at hes
    obtain rfl := List.isPrefixOf?_eq_some_iff_append_eq.mp hx
    have heach := hes.imp fun _ _ => segmentGives_of_readSegment
    -- the two empty lists that are tested for stand for segments without parts only
    have hblank := concat_isEmpty_iff heach
    simp only [Expression.ofSegments, hx, Option.isSome_some, Bool.true_and, Bool.and_eq_true,
      List.isEmpty_iff]
    by_cases hempty : ∀ segment ∈ expression.splitOn '|', atomTexts segment = []
    · rw [if_pos (hblank.mp hempty)]
      exact .empty hempty rfl rfl
    · rw [if_neg (mt hblank.mpr hempty)]
      refine .segments ?_ heach
      push Not at hempty
      exact hempty

/-- A segment is a clause and its content is this clause, or it is none and has no clauses. -/
theorem clauses_segmentContent {content : Content} (h : segmentContent segment = .ok content) :
    (isClauseText segment = true ∧ ∃ c, content.clauses = [c] ∧ IsClauseOf segment c) ∨
      (isClauseText segment = false ∧ content.clauses = []) := by
  rw [segmentContent, map_eq_ok_iff] at h
  obtain ⟨e, he, rfl⟩ := h
  obtain ⟨hp, hr⟩ | ⟨atoms, hp, ha, hr⟩ | ⟨cause, ha, hr⟩ | ⟨digits, -, hr⟩ :=
    readSegment_cases [] segment <;> rw [hr] at he <;> cases he
  · refine Or.inr ⟨?_, rfl⟩
    rw [← Bool.not_eq_true, isClauseText_iff]
    exact fun h => h.1 hp
  · exact Or.inl ⟨isClauseText_iff.mpr ⟨hp, atoms, ha⟩, ⟨atoms⟩, rfl,
      readAtoms_eq_ok_iff.mp ha⟩
  · refine Or.inr ⟨?_, rfl⟩
    rw [← Bool.not_eq_true, isClauseText_iff, ha]
    exact fun h => nomatch h.2

/-- The clauses of contents are those of the segments that are clauses, in their order. -/
theorem clauses_concat_content {segments : List Text} {contents : List Content}
    (h : List.Forall₂ (fun segment content => segmentContent segment = .ok content)
      segments contents) :
    List.Forall₂ IsClauseOf (segments.filter isClauseText) (Content.concat contents).clauses := by
  induction h with
  | nil => exact .nil
  | cons hcontent _ ih =>
    rw [Content.concat] at ih ⊢
    rcases clauses_segmentContent hcontent with ⟨htext, c, hc, hclause⟩ | ⟨htext, hc⟩
    · rw [List.filter_cons_of_pos htext, List.flatMap_cons, hc]
      exact .cons hclause ih
    · rw [List.filter_cons_of_neg (by simp [htext]), List.flatMap_cons, hc]
      exact ih

/-- A segment has at most one clause. -/
theorem rightUnique_isClauseOf : Relator.RightUnique IsClauseOf := by
  rintro segment ⟨atoms⟩ ⟨atoms'⟩ h h'
  rw [← readAtoms_eq_ok_iff] at h h'
  rw [h, Except.ok.injEq] at h'
  exact congrArg Clause.mk h'

namespace ColumnRules

variable {header : Text} {rules : ColumnRules}

/-- The words of a header give its clauses and its diagnostics. -/
theorem exists_wordGives (h : read header = .ok rules) :
    ∃ es, List.Forall₂ WordGives (Text.words header) es ∧
      rules.clauses = es.flatMap Expression.clauses ∧
      rules.diagnostics = es.flatMap Expression.diagnostics := by
  rw [read_eq, map_eq_ok_iff] at h
  obtain ⟨es, hes, rfl⟩ := h
  exact ⟨es, (mapM_eq_ok_iff.mp hes).imp fun _ _ => wordGives_of_readWord, rfl, rfl⟩

/-- The clauses of a header are those of its segments that are clauses, in their order. -/
theorem clauses_of_read (h : read header = .ok rules) :
    List.Forall₂ IsClauseOf ((segments header).filter isClauseText) rules.clauses := by
  have hcontent : (read header).map content = .ok rules.content := by rw [h]; rfl
  rw [map_read, map_eq_ok_iff] at hcontent
  obtain ⟨contents, hcontents, hrules⟩ := hcontent
  have hclauses : rules.clauses = (Content.concat contents).clauses := by rw [hrules]; rfl
  rw [hclauses]
  exact clauses_concat_content (mapM_eq_ok_iff.mp hcontents)

/-- No clause of a header is without atoms. -/
theorem atoms_ne_nil_of_read (h : read header = .ok rules) {c : Clause} (hc : c ∈ rules.clauses) :
    c.atoms ≠ [] := by
  obtain ⟨tag, segment, -, hparts, hr⟩ := (mem_clauses_iff h).mp hc
  rw [readAtoms_eq_ok_iff, IsClauseOf] at hr
  exact fun hnil => hparts (List.length_eq_zero_iff.mp (hr.length_eq.trans (by simp [hnil])))

/-- Every word of a header that is read gives its clauses and diagnostics in order: a segment of
a gather tag with parts gives one clause or else one diagnostic, and a gather tag without such
segments gives one diagnostic. The clauses are those of the segments that are clauses, with at
least one atom each, whatever the other segments are. -/
theorem read_accounts (h : read header = .ok rules) :
    (∃ es, List.Forall₂ WordGives (Text.words header) es ∧
      rules.clauses = es.flatMap Expression.clauses ∧
      rules.diagnostics = es.flatMap Expression.diagnostics) ∧
    List.Forall₂ IsClauseOf ((segments header).filter isClauseText) rules.clauses ∧
    (∀ header' rules', read header' = .ok rules' →
      (segments header').filter isClauseText = (segments header).filter isClauseText →
      rules'.clauses = rules.clauses) ∧
    ∀ c ∈ rules.clauses, c.atoms ≠ [] := by
  refine ⟨exists_wordGives h, clauses_of_read h, ?_, fun c => atoms_ne_nil_of_read h⟩
  intro header' rules' h' hsame
  have hclauses := clauses_of_read h'
  rw [hsame] at hclauses
  exact rightUnique_isClauseOf.forall₂ hclauses (clauses_of_read h)

end ColumnRules

/-- A header with segments of every kind: parts that are atoms, a part that is none before and
after such parts, no parts at all, and a gather tag without parts. -/
def rotaHeader : Text :=
  "Rota #gather_|anna&&day<7|x=1&karl|& #sort-byname #gather_&| #gather_bob&day=a".toList

/-- The rules that it states. -/
def rotaRules : ColumnRules where
  clauses := [
    ⟨[⟨.person, .equal, .name "anna".toList, false⟩, ⟨.dayOffset, .less, .number 7, false⟩]⟩]
  ungathered := false
  unsorted := false
  orders := [.byName]
  diagnostics := [
    ⟨"#gather_|anna&&day<7|x=1&karl|&".toList,
      .dropped "x=1&karl".toList (.unknownField "x".toList)⟩,
    ⟨"#gather_&|".toList, .noClause⟩,
    ⟨"#gather_bob&day=a".toList,
      .dropped "bob&day=a".toList (.notInteger "day".toList "a".toList)⟩]

/-- The segments of this header are accounted for by one clause and three diagnostics. -/
theorem rotaHeader_accounts :
    ColumnRules.read rotaHeader = .ok rotaRules ∧
    (∃ es, List.Forall₂ WordGives (Text.words rotaHeader) es ∧
      rotaRules.clauses = es.flatMap Expression.clauses ∧
      rotaRules.diagnostics = es.flatMap Expression.diagnostics) ∧
    List.Forall₂ IsClauseOf ((segments rotaHeader).filter isClauseText) rotaRules.clauses ∧
    (∀ header' rules', ColumnRules.read header' = .ok rules' →
      (segments header').filter isClauseText = (segments rotaHeader).filter isClauseText →
      rules'.clauses = rotaRules.clauses) ∧
    ∀ c ∈ rotaRules.clauses, c.atoms ≠ [] := by
  have hr : ColumnRules.read rotaHeader = .ok rotaRules := by decide +kernel
  exact ⟨hr, ColumnRules.read_accounts hr⟩

end GatherBoard
