import GatherBoard.Proofs.Board.Targets
import GatherBoard.Proofs.Rule.Answers

/-!
# Headers and boards that are refused

A header is read, and every segment of it that is no clause is reported, unless an integer
with more digits than are allowed stands where its first part that is no atom stands. A
board is sorted unless one of its headers is refused.
-/

namespace GatherBoard

/-- An integer stops the reading of a segment of the header. -/
def HasOverlong (header : Text) : Prop :=
  ∃ tag segment digits, HasSegment header tag segment ∧
    readAtoms (atomTexts segment) = .error (.overlong digits)

/-- The rules keep the segments of a header that are clauses and report the others. -/
structure ColumnRules.Reports (rules : ColumnRules) (header : Text) : Prop where
  /-- The clauses are those of the segments whose parts are all atoms. -/
  kept : ∀ c, c ∈ rules.clauses ↔ ∃ tag segment, HasSegment header tag segment ∧
    atomTexts segment ≠ [] ∧ readAtoms (atomTexts segment) = .ok c.atoms
  /-- The segments with a part that is no atom are reported, with the cause of the first. -/
  dropped : ∀ tag segment cause, ⟨tag, .dropped segment cause⟩ ∈ rules.diagnostics ↔
    HasSegment header tag segment ∧ readAtoms (atomTexts segment) = .error (.malformed cause)
  /-- Each segment with parts is one or the other. -/
  exhaustive : ∀ tag segment, HasSegment header tag segment → atomTexts segment ≠ [] →
    (∃ c ∈ rules.clauses, readAtoms (atomTexts segment) = .ok c.atoms) ∨
      ∃ cause, ⟨tag, .dropped segment cause⟩ ∈ rules.diagnostics

namespace ColumnRules

variable {header : Text} {rules : ColumnRules}

/-- A header is read unless it has an overlong integer. -/
theorem exists_read_iff_not_hasOverlong :
    (∃ rules, read header = .ok rules) ↔ ¬ HasOverlong header := by
  rw [exists_read_iff]
  constructor
  · rintro h ⟨tag, segment, digits, hs, hr⟩
    exact h tag segment hs digits hr
  · intro h tag segment hs digits hr
    exact h ⟨tag, segment, digits, hs, hr⟩

/-- What is read of a header reports the header. -/
theorem reports_of_read (h : read header = .ok rules) : rules.Reports header := by
  refine ⟨fun c => mem_clauses_iff h, fun tag segment cause => dropped_mem_iff h, ?_⟩
  intro tag segment hs hne
  cases hr : readAtoms (atomTexts segment) with
  | ok atoms => exact Or.inl ⟨⟨atoms⟩, (mem_clauses_iff h).mpr ⟨tag, segment, hs, hne, hr⟩, rfl⟩
  | error cause =>
    cases cause with
    | malformed cause => exact Or.inr ⟨cause, (dropped_mem_iff h).mpr ⟨hs, hr⟩⟩
    | overlong digits => exact absurd hr (exists_read_iff.mp ⟨rules, h⟩ tag segment hs digits)

/-- A header that is refused has a run of more digits than are allowed. -/
theorem exists_run_of_read {cause : Overlong} (h : read header = .error cause) :
    ∃ run, run <:+: header ∧ Text.isDigits run = true ∧ run.length = cause.digits ∧
      Text.maxDigits < cause.digits := by
  obtain ⟨tag, segment, hs, hr⟩ := exists_segment_of_read_eq_error h
  rw [readAtoms_eq_mapM] at hr
  obtain ⟨part, hp, hpart⟩ := exists_of_mapM_eq_error hr
  obtain ⟨run, hrun, hdigits, hlength, hlong⟩ := Atom.exists_digits_of_read hpart
  have hcut : part <:+: segment := (Text.mem_splitOn (List.mem_of_mem_filter hp)).1
  have htag : tag <:+: header := (Text.mem_words hs.1).1
  exact ⟨run, hrun.trans (hcut.trans (hs.spec.1.trans htag)), hdigits, hlength, hlong⟩

end ColumnRules

section

variable {rs : List RuledColumn} {facts : Facts} {today : Date}

/-- The search for a gathering column comes to an end if the rules were read. -/
theorem exists_gatheringColumn? (hr : ∀ r ∈ rs, ∃ header, ColumnRules.read header = .ok r.rules) :
    ∃ column?, gatheringColumn? rs facts today = .ok column? := by
  induction rs with
  | nil => exact ⟨none, rfl⟩
  | cons r rs ih =>
    rw [List.forall_mem_cons] at hr
    obtain ⟨header, hread⟩ := hr.1
    obtain ⟨answer, hm⟩ : ∃ answer, r.rules.matchesCard facts today = .ok answer :=
      ColumnRules.exists_matchesCard hread
    rw [gatheringColumn?, hm]
    cases answer with
    | true => exact ⟨some r.column, rfl⟩
    | false => exact ih hr.2

/-- A card has a target or none if the rules were read. -/
theorem exists_targetId? (hr : ∀ r ∈ rs, ∃ header, ColumnRules.read header = .ok r.rules) :
    ∃ target, targetId? rs facts today = .ok target := by
  rw [targetId?_eq]
  split
  · exact ⟨none, rfl⟩
  · rw [exists_map_iff, exists_map_iff]
    exact exists_gatheringColumn? hr

end

namespace Board

variable {b : Board} {today : Date} {select : TextSelector}

/-- A board has the rules of its columns if each of its headers is read. -/
theorem exists_ruledColumns_iff :
    (∃ rs, b.ruledColumns = .ok rs) ↔
      ∀ c ∈ b.columns, ∃ rules, ColumnRules.read c.title = .ok rules := by
  constructor
  · rintro ⟨rs, hrs⟩ c hc
    obtain ⟨r, -, hread, -⟩ := exists_of_forall₂_of_mem (ruledColumns_eq_ok_iff.mp hrs).flip hc
    exact ⟨r.rules, hread⟩
  · intro h
    have hc : ∀ c ∈ b.columns, ∃ r : RuledColumn,
        ColumnRules.read c.title = .ok r.rules ∧ r.column = c := by
      intro c hc
      obtain ⟨rules, hr⟩ := h c hc
      exact ⟨⟨c, rules⟩, hr, rfl⟩
    obtain ⟨rs, hf⟩ := exists_forall₂ hc
    exact ⟨rs, ruledColumns_eq_ok_iff.mpr hf⟩

/-- A board is sorted if each of its headers is read. -/
theorem exists_sort_iff :
    (∃ plan, b.sort today select = .ok plan) ↔
      ∀ c ∈ b.columns, ∃ rules, ColumnRules.read c.title = .ok rules := by
  constructor
  · rintro ⟨plan, hs⟩ c hc
    exact exists_read_of_sort hs hc
  · intro h
    obtain ⟨rs, hrs⟩ := exists_ruledColumns_iff.mpr h
    have hr : ∀ r ∈ rs, ∃ header, ColumnRules.read header = .ok r.rules := by
      intro r hr
      obtain ⟨c, -, hread, -⟩ := exists_of_forall₂_of_mem (ruledColumns_eq_ok_iff.mp hrs) hr
      exact ⟨c.title, hread⟩
    exact exists_sort_of_targets hrs fun x _ => exists_targetId? hr

/-- Only overlong integers keep a board from being sorted. A header that has one is refused
for a run of more digits than are allowed. Any other header is read and reports each of its
segments. A board is sorted unless one of its headers is refused. -/
theorem sort_total_but_for_overlong (b : Board) (today : Date) (select : TextSelector) :
    (∀ header,
      (HasOverlong header ∧ ∃ run, run <:+: header ∧ Text.isDigits run = true ∧
        Text.maxDigits < run.length ∧ ColumnRules.read header = .error ⟨run.length⟩) ∨
      (¬ HasOverlong header ∧ ∃ rules, ColumnRules.read header = .ok rules ∧
        rules.Reports header)) ∧
    ((∃ plan, b.sort today select = .ok plan) ↔ ∀ c ∈ b.columns, ¬ HasOverlong c.title) := by
  constructor
  · intro header
    by_cases ho : HasOverlong header
    · cases hr : ColumnRules.read header with
      | ok rules => exact absurd ho (ColumnRules.exists_read_iff_not_hasOverlong.mp ⟨rules, hr⟩)
      | error cause =>
        obtain ⟨run, hrun, hdigits, hlength, hlong⟩ := ColumnRules.exists_run_of_read hr
        refine Or.inl ⟨ho, run, hrun, hdigits, hlength ▸ hlong, ?_⟩
        rw [hlength]
    · obtain ⟨rules, hr⟩ := ColumnRules.exists_read_iff_not_hasOverlong.mpr ho
      exact Or.inr ⟨ho, rules, hr, ColumnRules.reports_of_read hr⟩
  · simp only [exists_sort_iff, ColumnRules.exists_read_iff_not_hasOverlong]

end Board

/-- A segment that asks for a due date in a number of days that is written with ones. -/
def onesSegment (n : Nat) : Text :=
  Field.dayOffset.label ++ Comparison.equal.sign ++ List.replicate n '1'

/-- A header that asks for such a date or for a person. -/
def onesHeader (n : Nat) : Text := gatherMark ++ Text.joinWith ['|'] [onesSegment n, "bob".toList]

/-- The segment is plain. -/
theorem isPlain_onesSegment (n : Nat) : IsPlain (onesSegment n) := by
  rw [onesSegment, isPlain_append, isPlain_append]
  refine ⟨⟨Field.isPlain_label _, Comparison.isPlain_sign _⟩, fun c hc => ?_⟩
  rw [List.eq_of_mem_replicate hc]
  decide

/-- With too many ones the segment is refused. -/
theorem read_onesSegment {n : Nat} (hn : Text.maxDigits < n) :
    Atom.read (onesSegment n) = .error (.overlong n) := by
  have hone : ∀ c ∈ List.replicate n '1', c = '1' := fun c => List.eq_of_mem_replicate
  have hbreak : '\n' ∉ List.replicate n '1' := fun hm => absurd (hone _ hm) (by decide)
  have hdigits : Text.isDigits (List.replicate n '1') = true := by
    rw [Text.isDigits, Bool.and_eq_true, List.all_eq_true]
    refine ⟨?_, fun c hc => ?_⟩
    · have hpos : n ≠ 0 := by omega
      simpa using hpos
    · rw [hone c hc]
      decide
  refine (Atom.read_written false .dayOffset .equal hbreak).trans
    (Atom.ofSides_eq_overlong_iff.mpr ⟨.dayOffset, ⟨false, List.replicate n '1'⟩,
      Atom.fieldOf?_label (by decide), rfl, Text.Numeral.read?_of_isDigits hdigits, ?_,
      List.length_replicate⟩)
  rw [Text.Numeral.isShort, List.length_replicate, decide_eq_false_iff_not]
  omega

/-- With too many ones the header has an overlong integer. -/
theorem hasOverlong_onesHeader {n : Nat} (hn : Text.maxDigits < n) :
    HasOverlong (onesHeader n) := by
  have hplain : ∀ segment ∈ [onesSegment n, "bob".toList], IsPlain segment := by
    rw [List.forall_mem_cons, List.forall_mem_singleton]
    exact ⟨isPlain_onesSegment n, by decide⟩
  have hblank : ∀ c ∈ Text.joinWith ['|'] [onesSegment n, "bob".toList], Text.isBlank c = false :=
    Text.forall_mem_joinWith (by decide) fun segment hs c hc => (hplain segment hs c hc).1
  have hbar : ∀ segment ∈ [onesSegment n, "bob".toList], '|' ∉ segment :=
    fun segment hs hm => (hplain segment hs _ hm).2.2 rfl
  have hparts : atomTexts (onesSegment n) = [onesSegment n] := by
    refine atomTexts_of_isPlain (isPlain_onesSegment n) fun hnil => ?_
    have hread := read_onesSegment hn
    rw [hnil] at hread
    cases hread
  refine ⟨onesHeader n, onesSegment n, n, ⟨?_, ?_⟩, ?_⟩
  · rw [onesHeader, words_gatherTag hblank]
    exact List.mem_singleton_self _
  · rw [onesHeader, segmentsOf_joinWith hbar (List.cons_ne_nil _ _)]
    exact List.mem_cons_self
  · rw [hparts, readAtoms_eq_mapM, mapM_eq_error_iff]
    exact ⟨[], onesSegment n, [], rfl, by simp, read_onesSegment hn⟩

/-- A board with one column, which has that header and no card. -/
def onesBoard (n : Nat) : Board where
  columns := [⟨"a".toList, onesHeader n, []⟩]
  title := []
  header := none
  footer := none

/-- With too many ones the header is not read, and the board is not sorted. -/
theorem onesHeader_refused {n : Nat} (hn : Text.maxDigits < n) :
    (¬ ∃ rules, ColumnRules.read (onesHeader n) = .ok rules) ∧
      ∀ today select, ¬ ∃ plan, (onesBoard n).sort today select = .ok plan := by
  have hr : ¬ ∃ rules, ColumnRules.read (onesHeader n) = .ok rules := fun h =>
    ColumnRules.exists_read_iff_not_hasOverlong.mp h (hasOverlong_onesHeader hn)
  refine ⟨hr, fun today select hs => hr ?_⟩
  exact Board.exists_sort_iff.mp hs ⟨"a".toList, onesHeader n, []⟩ List.mem_cons_self

/-- One digit more than is allowed does so. -/
theorem overlongHeader_refused :
    (¬ ∃ rules, ColumnRules.read (onesHeader 4301) = .ok rules) ∧
      ∀ today select, ¬ ∃ plan, (onesBoard 4301).sort today select = .ok plan :=
  onesHeader_refused (by decide)

end GatherBoard
