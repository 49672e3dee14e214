import GatherBoard.Proofs.Rule.AtomTexts
import GatherBoard.Proofs.Rule.Segments
import GatherBoard.Proofs.Text.Cuts

/-!
# Canonical texts of rules

The canonical text of the clauses of a header is itself the expression of a gather tag.
It is cut at its separators into the canonical texts of the clauses and of their atoms, so
that it is read as the same clauses.
-/

namespace GatherBoard

/-- The parts of a segment of a header are plain. -/
theorem HasSegment.isPlain {header tag segment part : Text} (h : HasSegment header tag segment)
    (hp : part ∈ atomTexts segment) : IsPlain part := by
  obtain ⟨htag, hbar⟩ := h.spec
  obtain ⟨hpart, hand⟩ := Text.mem_splitOn (List.mem_of_mem_filter hp)
  have hblank := (Text.mem_words h.1).2.2
  intro c hc
  refine ⟨hblank c ((hpart.trans htag).subset hc), ?_, ?_⟩
  · rintro rfl
    exact hand hc
  · rintro rfl
    exact hbar (hpart.subset hc)

/-- A plain text is its own only part. -/
theorem atomTexts_of_isPlain {t : Text} (ht : IsPlain t) (hne : t ≠ []) : atomTexts t = [t] := by
  have hcut : t.splitOn '&' = [t] :=
    List.splitOnP_eq_singleton fun c hc => beq_eq_false_iff_ne.mpr (ht c hc).2.1
  rw [atomTexts, hcut]
  simpa using hne

/-- The clauses that are read: they have atoms, and each of them is read of a plain text. -/
structure Clause.IsRead (c : Clause) : Prop where
  nonempty : c.atoms ≠ []
  atoms : ∀ a ∈ c.atoms, ∃ part, IsPlain part ∧ Atom.read part = .ok a

/-- The clauses of a header are clauses that are read. -/
theorem ColumnRules.isRead_of_mem_clauses {header : Text} {rules : ColumnRules}
    (h : ColumnRules.read header = .ok rules) {c : Clause} (hc : c ∈ rules.clauses) : c.IsRead := by
  obtain ⟨tag, segment, hs, hne, hr⟩ := (mem_clauses_iff h).mp hc
  rw [readAtoms_eq_mapM, mapM_eq_ok_iff] at hr
  constructor
  · intro hnil
    rw [hnil, List.forall₂_nil_right_iff] at hr
    exact hne hr
  · intro a ha
    obtain ⟨part, hp, hpa⟩ := exists_of_forall₂_of_mem hr ha
    exact ⟨part, hs.isPlain hp, hpa⟩

namespace Clause

variable {c : Clause}

/-- The canonical text of a clause holds no white space and no separator of segments. -/
theorem IsRead.not_mem_describe (hc : c.IsRead) :
    ∀ ch ∈ c.describe, Text.isBlank ch = false ∧ ch ≠ '|' := by
  refine Text.forall_mem_joinWith (by decide) (List.forall_mem_map.mpr fun a ha ch hch => ?_)
  obtain ⟨part, hp, hr⟩ := hc.atoms a ha
  have hplain := Atom.isPlain_describe hr hp ch hch
  exact ⟨hplain.1, hplain.2.2⟩

/-- The canonical text of a clause falls into those of its atoms. -/
theorem IsRead.atomTexts_describe (hc : c.IsRead) :
    atomTexts c.describe = c.atoms.map Atom.describe := by
  have hcut : c.describe.splitOn '&' = c.atoms.map Atom.describe := by
    refine List.splitOn_intercalate '&' (List.forall_mem_map.mpr fun a ha hm => ?_) ?_
    · obtain ⟨part, hp, hr⟩ := hc.atoms a ha
      exact (Atom.isPlain_describe hr hp '&' hm).2.1 rfl
    · simpa using hc.nonempty
  rw [atomTexts, hcut, List.filter_eq_self, List.forall_mem_map]
  intro a ha
  obtain ⟨part, -, hr⟩ := hc.atoms a ha
  simpa using Atom.describe_ne_nil (Atom.isWellFormed_of_read hr)

/-- The canonical text of a clause is read as the clause. -/
theorem IsRead.readSegment_describe (hc : c.IsRead) (tag : Text) :
    readSegment tag c.describe = .ok ⟨[c], []⟩ := by
  have hr : readAtoms (c.atoms.map Atom.describe) = .ok c.atoms := by
    rw [readAtoms_eq_mapM, mapM_eq_ok_iff, List.forall₂_map_left_iff, List.forall₂_same]
    intro a ha
    obtain ⟨part, -, hpa⟩ := hc.atoms a ha
    exact (Atom.isWellFormed_of_read hpa).read_describe
  have hne : ¬ (c.atoms.map Atom.describe).isEmpty = true := by simpa using hc.nonempty
  rw [readSegment, hc.atomTexts_describe, if_neg hne, hr]

end Clause

namespace ColumnRules

variable {rules : ColumnRules}

/-- The canonical text of read clauses holds no white space. -/
theorem not_isBlank_of_mem_describe (h : ∀ c ∈ rules.clauses, c.IsRead) :
    ∀ ch ∈ rules.describe, Text.isBlank ch = false :=
  Text.forall_mem_joinWith (by decide)
    (List.forall_mem_map.mpr fun c hc ch hch => ((h c hc).not_mem_describe ch hch).1)

/-- A gather tag with the canonical text of read clauses has the canonical texts of the
clauses as its segments. -/
theorem segmentsOf_describe (h : ∀ c ∈ rules.clauses, c.IsRead) (hne : rules.clauses ≠ []) :
    segmentsOf (gatherMark ++ rules.describe) = rules.clauses.map Clause.describe := by
  refine segmentsOf_joinWith (List.forall_mem_map.mpr fun c hc hm => ?_) ?_
  · exact ((h c hc).not_mem_describe '|' hm).2 rfl
  · simpa using hne

/-- Such a tag says the clauses and nothing else. -/
theorem readWord_describe (h : ∀ c ∈ rules.clauses, c.IsRead) (hne : rules.clauses ≠ []) :
    readWord (gatherMark ++ rules.describe) = .ok ⟨rules.clauses, []⟩ := by
  have hsegments : (rules.clauses.map Clause.describe).mapM
      (readSegment (gatherMark ++ rules.describe)) =
        .ok (rules.clauses.map fun c => ⟨[c], []⟩) := by
    rw [mapM_eq_ok_iff, List.forall₂_map_left_iff, List.forall₂_map_right_iff, List.forall₂_same]
    exact fun c hc => (h c hc).readSegment_describe _
  have hconcat : Expression.concat (rules.clauses.map fun c => ⟨[c], []⟩) =
      ⟨rules.clauses, []⟩ := by
    simp [Expression.concat, List.flatMap_map]
  rw [readWord_eq, segmentsOf_describe h hne, hsegments, Except.map, Expression.ofSegments, hconcat]
  simp [hne]

/-- A header that is such a tag alone states the clauses and nothing else. -/
theorem read_describe (h : ∀ c ∈ rules.clauses, c.IsRead) (hne : rules.clauses ≠ []) :
    ColumnRules.read (gatherMark ++ rules.describe) =
      .ok ⟨rules.clauses, false, false, [], []⟩ := by
  have hsays : [gatherMark ++ rules.describe].mapM readWord = .ok [⟨rules.clauses, []⟩] :=
    mapM_eq_ok_iff.mpr (.cons (readWord_describe h hne) .nil)
  have hgather : gatherMark.isPrefixOf? (gatherMark ++ rules.describe) = some rules.describe :=
    List.isPrefixOf?_eq_some_iff_append_eq.mpr rfl
  obtain ⟨hu, hs, ho⟩ := not_other_of_gather hgather
  rw [read_eq, words_gatherTag (not_isBlank_of_mem_describe h), hsays]
  simp only [Except.map, List.flatMap_cons, List.flatMap_nil, List.append_nil, List.contains_cons,
    List.contains_nil, hu, hs, Bool.or_false, List.filterMap_cons, List.filterMap_nil, ho]

/-- The canonical text of rules has no white space, and a gather tag with it states the same
clauses without any problem, so that it has the same canonical text. -/
theorem describe_reads_back {header : Text} (h : ColumnRules.read header = .ok rules)
    (hne : rules.clauses ≠ []) :
    (∀ ch ∈ rules.describe, Text.isBlank ch = false) ∧
      ∃ rules', ColumnRules.read (gatherMark ++ rules.describe) = .ok rules' ∧
        rules'.clauses = rules.clauses ∧ rules'.diagnostics = [] ∧
        rules'.describe = rules.describe := by
  have hread : ∀ c ∈ rules.clauses, c.IsRead := fun c => isRead_of_mem_clauses h
  exact ⟨not_isBlank_of_mem_describe hread, _, read_describe hread hne, rfl, rfl, rfl⟩

end ColumnRules

/-- A header with two gather tags. It has an alias, reversed sides, capitals, a sign, a zero
in another script, double negation and a segment that is dropped. -/
def teamHeader : Text :=
  "Team #gather_!Reto&DAY<+٠07|-1<DayOffset&!!karl #sort-byname #gather_Weekday!=MON|month<mar".toList

/-- The rules that it states. -/
def teamRules : ColumnRules where
  clauses := [
    ⟨[⟨.person, .equal, .name "Reto".toList, true⟩, ⟨.dayOffset, .less, .number 7, false⟩]⟩,
    ⟨[⟨.dayOffset, .greater, .number (-1), false⟩, ⟨.person, .equal, .name "karl".toList, false⟩]⟩,
    ⟨[⟨.weekday, .notEqual, .name "mon".toList, false⟩]⟩]
  ungathered := false
  unsorted := false
  orders := [.byName]
  diagnostics := [⟨"#gather_Weekday!=MON|month<mar".toList,
    .dropped "month<mar".toList (.notOrdered .less "month".toList)⟩]

/-- The clauses of the team are stated again by their canonical text. -/
theorem teamRules_read_back :
    ColumnRules.read teamHeader = .ok teamRules ∧ teamRules.clauses ≠ [] ∧
    teamRules.describe = "!Reto&dayoffset<7|dayoffset>-1&karl|weekday!=mon".toList ∧
    (∀ ch ∈ teamRules.describe, Text.isBlank ch = false) ∧
      ∃ rules', ColumnRules.read (gatherMark ++ teamRules.describe) = .ok rules' ∧
        rules'.clauses = teamRules.clauses ∧ rules'.diagnostics = [] ∧
        rules'.describe = teamRules.describe := by
  have hr : ColumnRules.read teamHeader = .ok teamRules := by decide +kernel
  have hne : teamRules.clauses ≠ [] := by decide
  exact ⟨hr, hne, by decide, ColumnRules.describe_reads_back hr hne⟩

end GatherBoard
