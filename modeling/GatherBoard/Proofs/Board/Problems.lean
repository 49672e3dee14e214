import GatherBoard.Proofs.Board.Classification

/-!
# The problems of columns

The problems of a column are those of its header and, if it is a fallback column to the right
of another one, that it is ignored as such. Where columns have different ids, a plan lists the
problems of every column that has some, in board order.
-/

namespace GatherBoard

/-- The tag that makes the column of a header a fallback column. If both tags are there, it is
the first of the two. -/
inductive IsFallbackTag (header : Text) : Text → Prop
  | ungathered (listed : ungatheredTag ∈ Text.words header) : IsFallbackTag header ungatheredTag
  | unsorted (listed : unsortedTag ∈ Text.words header)
    (alone : ungatheredTag ∉ Text.words header) : IsFallbackTag header unsortedTag

/-- What a header has to be told about fallback columns, when these headings are to its left. -/
inductive LateFallback (before : List (Text × Text)) (header : Text) : List Diagnostic → Prop
  /-- A fallback column after the first is ignored. -/
  | late {id title tag : Text} (own : IsFallbackTag header tag)
    (first : IsFirst (fun h => HasFallbackTag h.2) before (id, title)) :
    LateFallback before header [⟨tag, .secondFallback title⟩]
  /-- Nothing is to be told if there is no fallback column to the left. -/
  | first (none : ∀ h ∈ before, ¬ HasFallbackTag h.2) : LateFallback before header []
  /-- Nothing is to be told of any other column. -/
  | other (plain : ¬ HasFallbackTag header) : LateFallback before header []

/-- The problems of the column with this id and header, among the headings of a board: those of
its header in their order, and then the one of a late fallback column. -/
def HasProblems (headings : List (Text × Text)) (id header : Text) (found : List Diagnostic) :
    Prop :=
  ∃ before after rules late, headings = before ++ (id, header) :: after ∧
    ColumnRules.read header = .ok rules ∧ LateFallback before header late ∧
    found = rules.diagnostics ++ late

variable {header tag : Text} {rules : ColumnRules}

/-- The fallback tags of a header are those among its words. -/
theorem fallbackFlags_of_read (h : ColumnRules.read header = .ok rules) :
    (rules.ungathered = true ↔ ungatheredTag ∈ Text.words header) ∧
      (rules.unsorted = true ↔ unsortedTag ∈ Text.words header) := by
  rw [ColumnRules.read_eq, map_eq_ok_iff] at h
  obtain ⟨es, -, rfl⟩ := h
  exact ⟨List.contains_iff_mem, List.contains_iff_mem⟩

/-- The tag that makes a column a fallback column is read off its header. -/
theorem fallbackTag?_eq_some_iff_of_read (h : ColumnRules.read header = .ok rules) :
    rules.fallbackTag? = some tag ↔ IsFallbackTag header tag := by
  obtain ⟨hungathered, hunsorted⟩ := fallbackFlags_of_read h
  rw [ColumnRules.fallbackTag?]
  by_cases hu : rules.ungathered = true
  · rw [if_pos hu, Option.some.injEq]
    constructor
    · intro heq
      exact heq ▸ .ungathered (hungathered.mp hu)
    · intro ht
      cases ht with
      | ungathered listed => rfl
      | unsorted listed alone => exact absurd (hungathered.mp hu) alone
  · rw [if_neg hu]
    have hno : ungatheredTag ∉ Text.words header := fun hm => hu (hungathered.mpr hm)
    by_cases hs : rules.unsorted = true
    · rw [if_pos hs, Option.some.injEq]
      constructor
      · intro heq
        exact heq ▸ .unsorted (hunsorted.mp hs) hno
      · intro ht
        cases ht with
        | ungathered listed => exact absurd listed hno
        | unsorted listed alone => rfl
    · rw [if_neg hs]
      constructor
      · intro heq
        cases heq
      · intro ht
        cases ht with
        | ungathered listed => exact absurd listed hno
        | unsorted listed alone => exact absurd (hunsorted.mpr listed) hs

/-- A header has a fallback tag if one of them makes it one of a fallback column. -/
theorem hasFallbackTag_iff_exists : HasFallbackTag header ↔ ∃ tag, IsFallbackTag header tag := by
  constructor
  · intro h
    by_cases hu : ungatheredTag ∈ Text.words header
    · exact ⟨_, .ungathered hu⟩
    · exact ⟨_, .unsorted (h.resolve_left hu) hu⟩
  · intro h
    obtain ⟨tag, ht⟩ := h
    cases ht with
    | ungathered listed => exact Or.inl listed
    | unsorted listed alone => exact Or.inr listed

/-- A column has one fallback tag that counts. -/
theorem IsFallbackTag.unique {tag' : Text} (h : IsFallbackTag header tag)
    (h' : IsFallbackTag header tag') : tag = tag' := by
  cases h with
  | ungathered listed =>
    cases h' with
    | ungathered => rfl
    | unsorted _ alone => exact absurd listed alone
  | unsorted _ alone =>
    cases h' with
    | ungathered listed => exact absurd listed alone
    | unsorted => rfl

/-- There is one thing to be told about fallback columns. -/
theorem LateFallback.unique {before : List (Text × Text)} {late late' : List Diagnostic}
    (h : LateFallback before header late) (h' : LateFallback before header late') :
    late = late' := by
  cases h with
  | late own first =>
    cases h' with
    | late own' first' =>
      have htag := own.unique own'
      have htitle := congrArg Prod.snd (first.unique first')
      simp only at htitle
      rw [htag, htitle]
    | first none => exact absurd none first.not_forall_not
    | other plain => exact absurd (hasFallbackTag_iff_exists.mpr ⟨_, own⟩) plain
  | first none =>
    cases h' with
    | late _ first' => exact absurd none first'.not_forall_not
    | first | other => rfl
  | other plain =>
    cases h' with
    | late own' => exact absurd (hasFallbackTag_iff_exists.mpr ⟨_, own'⟩) plain
    | first | other => rfl

section Search

variable {before rs : List RuledColumn} {r : RuledColumn} {log : List (Text × List Diagnostic)}

/-- The problem of being a late fallback column is told by the headings. -/
theorem lateFallback_fallbackProblem (hb : ∀ r' ∈ before, r'.IsRead) (hr : r.IsRead) :
    LateFallback (before.map fun r' => r'.column.heading) r.column.title
      (fallbackProblem (fallbackColumn? before) r.rules) := by
  cases hf : fallbackColumn? before with
  | none => exact .first (not_hasFallbackTag_of_fallbackColumn? hb hf)
  | some first =>
    cases ht : r.rules.fallbackTag? with
    | some tag =>
      simp only [fallbackProblem, ht]
      exact .late ((fallbackTag?_eq_some_iff_of_read hr).mp ht) (isFirst_of_fallbackColumn? hb hf)
    | none =>
      simp only [fallbackProblem, ht]
      refine .other fun hfallback => ?_
      obtain ⟨tag, htag⟩ := hasFallbackTag_iff_exists.mp hfallback
      rw [(fallbackTag?_eq_some_iff_of_read hr).mpr htag] at ht
      cases ht

/-- The problems of a column, when these columns are to its left. -/
def problemsAfter (before : List RuledColumn) (r : RuledColumn) : List Diagnostic :=
  r.rules.diagnostics ++ fallbackProblem (fallbackColumn? before) r.rules

/-- The problems of every column under its id, when the first columns are to the left of all. -/
def reportsFrom (before : List RuledColumn) : List RuledColumn → List (Text × List Diagnostic)
  | [] => []
  | r :: more => (r.column.id, problemsAfter before r) :: reportsFrom (before ++ [r]) more

/-- Every column has a report. -/
theorem map_fst_reportsFrom (before rs : List RuledColumn) :
    (reportsFrom before rs).map Prod.fst = rs.map fun r => r.column.id := by
  induction rs generalizing before with
  | nil => rfl
  | cons r rs ih => rw [reportsFrom, List.map_cons, List.map_cons, ih]

/-- A report is that of a column after the columns to its left. -/
theorem mem_reportsFrom {entry : Text × List Diagnostic} :
    entry ∈ reportsFrom before rs ↔
      ∃ left r right, rs = left ++ r :: right ∧
        entry = (r.column.id, problemsAfter (before ++ left) r) := by
  induction rs generalizing before with
  | nil => simp [reportsFrom]
  | cons r rs ih =>
    rw [reportsFrom, List.mem_cons, ih]
    constructor
    · rintro (heq | ⟨left, r', right, hs, heq⟩)
      · exact ⟨[], r, rs, rfl, by rw [heq, List.append_nil]⟩
      · refine ⟨r :: left, r', right, by rw [hs, List.cons_append], ?_⟩
        rw [heq, List.append_assoc, List.singleton_append]
    · rintro ⟨left, r', right, hs, heq⟩
      cases left with
      | nil =>
        obtain ⟨rfl, -⟩ := List.cons.inj hs
        exact Or.inl (by rw [heq, List.append_nil])
      | cons first left =>
        obtain ⟨rfl, hrest⟩ := List.cons.inj hs
        refine Or.inr ⟨left, r', right, hrest, ?_⟩
        rw [heq, List.append_assoc, List.singleton_append]

/-- The problems of a column that has none yet are put at the end. -/
theorem addDiagnostics_of_not_mem {id : Text} (found : List Diagnostic)
    (h : id ∉ log.map Prod.fst) :
    addDiagnostics log id found = log ++ [(id, found)].filter fun entry => !entry.2.isEmpty := by
  unfold addDiagnostics
  cases hempty : found.isEmpty with
  | true => simp [hempty]
  | false =>
    rw [if_neg Bool.false_ne_true, List.filter_cons_of_pos (by simp [hempty]), List.filter_nil]
    induction log with
    | nil => rfl
    | cons entry log ih =>
      rw [List.map_cons, List.mem_cons, not_or] at h
      simp only [if_neg (Ne.symm h.1), List.cons_append, List.cons.injEq, true_and]
      unfold addDiagnostics
      rw [hempty, if_neg Bool.false_ne_true]
      exact ih h.2

/-- One more column to the left may be the first fallback column. -/
theorem fallbackColumn?_append_singleton :
    fallbackColumn? (before ++ [r]) =
      if r.rules.isFallback then fallbackColumn? before <|> some r.column
      else fallbackColumn? before := by
  unfold fallbackColumn?
  rw [List.find?_append]
  cases hf : r.rules.isFallback with
  | true =>
    simp only [List.find?_cons, hf, ↓reduceIte]
    cases before.find? fun ruled => ruled.rules.isFallback <;> rfl
  | false =>
    simp only [List.find?_cons, List.find?_nil, hf, Bool.false_eq_true, ↓reduceIte, Option.or_none]

/-- Columns with different ids are reported one after the other, those without problems left
out. -/
theorem columnProblems_eq (hn : (rs.map fun r => r.column.id).Nodup)
    (hnew : ∀ r ∈ rs, r.column.id ∉ log.map Prod.fst) :
    columnProblems (fallbackColumn? before) log rs =
      log ++ (reportsFrom before rs).filter fun entry => !entry.2.isEmpty := by
  -- the columns already passed move to the left of the others, and their reports into the log
  induction rs generalizing before log with
  | nil => rw [columnProblems, reportsFrom, List.filter_nil, List.append_nil]
  | cons r rs ih =>
    rw [List.map_cons, List.nodup_cons] at hn
    rw [List.forall_mem_cons] at hnew
    have hlog := addDiagnostics_of_not_mem (problemsAfter before r) hnew.1
    have hlater : ∀ r' ∈ rs, r'.column.id ∉
        (addDiagnostics log r.column.id (problemsAfter before r)).map Prod.fst := by
      intro r' hr' hm
      rw [hlog, List.map_append, List.mem_append] at hm
      rcases hm with hm | hm
      · exact hnew.2 r' hr' hm
      · obtain ⟨entry, hentry, hid⟩ := List.mem_map.mp hm
        have hone := List.mem_singleton.mp (List.mem_of_mem_filter hentry)
        rw [hone] at hid
        exact hn.1 (List.mem_map.mpr ⟨r', hr', hid.symm⟩)
    have hstep : columnProblems (fallbackColumn? before) log (r :: rs) =
        columnProblems (fallbackColumn? (before ++ [r]))
          (addDiagnostics log r.column.id (problemsAfter before r)) rs := by
      rw [columnProblems, fallbackColumn?_append_singleton]
      rfl
    rw [hstep, ih hn.2 hlater, hlog, List.append_assoc, reportsFrom, ← List.filter_append,
      List.singleton_append]

end Search

namespace Board

variable {b : Board} {today : Date} {select : TextSelector} {plan : Plan}

/-- A plan for different columns lists the reports that are not empty. -/
theorem diagnostics_eq_of_sort (hn : b.columnIds.Nodup) (h : b.sort today select = .ok plan) :
    ∃ rs, b.ruledColumns = .ok rs ∧
      plan.diagnostics = (reportsFrom [] rs).filter fun entry => !entry.2.isEmpty := by
  obtain ⟨rs, hrs, -, hd⟩ := sort_eq_ok_iff.mp h
  have hids : (rs.map fun r => r.column.id).Nodup := (map_id_of_ruledColumns hrs).symm ▸ hn
  have hnone : columnProblems none [] rs = columnProblems (fallbackColumn? []) [] rs := rfl
  refine ⟨rs, hrs, ?_⟩
  rw [hd, hnone, columnProblems_eq hids (by simp), List.nil_append]

/-- On a board of different columns an id stands at one place, with one header. -/
theorem split_headings_unique {left right left' right' : List (Text × Text)}
    {id header header' : Text} (hn : b.columnIds.Nodup)
    (h : b.headings = left ++ (id, header) :: right)
    (h' : b.headings = left' ++ (id, header') :: right') : left = left' ∧ header = header' := by
  have hids : b.columnIds = b.headings.map Prod.fst := by
    rw [columnIds, headings, List.map_map]
    rfl
  have hnodup : (b.headings.map Prod.fst).Nodup := hids ▸ hn
  have hmem : (id, header) ∈ b.headings := by simp [h]
  have hmem' : (id, header') ∈ b.headings := by simp [h']
  have hpair : (id, header) = (id, header') := List.inj_on_of_nodup_map hnodup hmem hmem' rfl
  have hheader : header = header' := congrArg Prod.snd hpair
  rw [← hheader] at h'
  have hnot : (id, header) ∉ left ++ right := by
    have hheadings : b.headings.Nodup := hnodup.of_map _
    rw [h, List.nodup_middle, List.nodup_cons] at hheadings
    exact hheadings.1
  rw [List.mem_append, not_or] at hnot
  have hsplits : left ++ (id, header) :: right = left' ++ (id, header) :: right' := h ▸ h'
  exact ⟨((List.append_cons_inj_of_notMem hnot.1 hnot.2).mp hsplits).1, hheader⟩

/-- A column has the problems that are found after the columns to its left. -/
theorem hasProblems_of_ruledColumns {left right : List RuledColumn} {r : RuledColumn}
    (h : b.ruledColumns = .ok (left ++ r :: right)) :
    HasProblems b.headings r.column.id r.column.title (problemsAfter left r) := by
  obtain ⟨hheadings, hread⟩ := headings_of_ruledColumns h
  rw [List.forall_mem_append, List.forall_mem_cons] at hread
  have hsplit : b.headings = left.map (fun r' => r'.column.heading) ++
      (r.column.id, r.column.title) :: right.map fun r' => r'.column.heading := by
    rw [← hheadings, List.map_append, List.map_cons]
    rfl
  exact ⟨_, _, r.rules, _, hsplit, hread.2.1, lateFallback_fallbackProblem hread.1 hread.2.1, rfl⟩

/-- On a board of different columns each id has one header and one list of problems. -/
theorem hasProblems_unique {id header header' : Text} {found found' : List Diagnostic}
    (hn : b.columnIds.Nodup) (h : HasProblems b.headings id header found)
    (h' : HasProblems b.headings id header' found') : found = found' := by
  obtain ⟨left, right, rules, late, hsplit, hread, hlate, hfound⟩ := h
  obtain ⟨left', right', rules', late', hsplit', hread', hlate', hfound'⟩ := h'
  obtain ⟨hleft, hheader⟩ := split_headings_unique hn hsplit hsplit'
  rw [← hleft, ← hheader] at hlate'
  rw [← hheader] at hread'
  have hrules : rules = rules' := Except.ok.inj (hread.symm.trans hread')
  rw [hfound, hfound', hrules, hlate.unique hlate']

/-- The plan lists the problems of a column under its id if there are any. -/
theorem mem_diagnostics_iff {id : Text} {found : List Diagnostic} (hn : b.columnIds.Nodup)
    (h : b.sort today select = .ok plan) :
    (id, found) ∈ plan.diagnostics ↔
      found ≠ [] ∧ ∃ header, HasProblems b.headings id header found := by
  obtain ⟨rs, hrs, hd⟩ := diagnostics_eq_of_sort hn h
  have hempty : (!found.isEmpty) = true ↔ found ≠ [] := by simp
  rw [hd, List.mem_filter, hempty, and_comm]
  refine and_congr_right fun _ => ?_
  constructor
  · intro hm
    obtain ⟨left, r, right, hs, heq⟩ := mem_reportsFrom.mp hm
    obtain ⟨hid, hfound⟩ := Prod.mk.inj heq
    rw [hs] at hrs
    rw [hid, hfound]
    exact ⟨_, hasProblems_of_ruledColumns hrs⟩
  · intro hp
    obtain ⟨header, hproblems⟩ := hp
    have hsplit : ∃ before after, b.headings = before ++ (id, header) :: after := by
      obtain ⟨before, after, -, -, hsplit, -⟩ := hproblems
      exact ⟨before, after, hsplit⟩
    obtain ⟨before, after, hsplit⟩ := hsplit
    rw [← (headings_of_ruledColumns hrs).1] at hsplit
    obtain ⟨left, rest, hs, -, hrest⟩ := List.map_eq_append_iff.mp hsplit
    obtain ⟨r, right, hcons, hheading, -⟩ := List.map_eq_cons_iff.mp hrest
    obtain ⟨hid, hheader⟩ := Prod.mk.inj hheading
    rw [hcons] at hs
    have hcomputed := hasProblems_of_ruledColumns (hs ▸ hrs)
    rw [hid, hheader] at hcomputed
    rw [hasProblems_unique hn hproblems hcomputed]
    exact mem_reportsFrom.mpr ⟨left, r, right, hs, by rw [hid, List.nil_append]⟩

/-- Each column of a board that is sorted has its list of problems. -/
theorem exists_hasProblems (h : b.sort today select = .ok plan) {c : Column} (hc : c ∈ b.columns) :
    ∃ found, HasProblems b.headings c.id c.title found := by
  obtain ⟨rs, hrs, -, -⟩ := sort_eq_ok_iff.mp h
  obtain ⟨r, hr, -, hcolumn⟩ := exists_of_forall₂_of_mem (ruledColumns_eq_ok_iff.mp hrs).flip hc
  obtain ⟨left, right, hs⟩ := List.append_of_mem hr
  rw [hs] at hrs
  exact ⟨_, hcolumn ▸ hasProblems_of_ruledColumns hrs⟩

/-- The problems are listed in the order of the columns, those of each column once. -/
theorem diagnostics_sublist (hn : b.columnIds.Nodup) (h : b.sort today select = .ok plan) :
    (plan.diagnostics.map Prod.fst).Sublist b.columnIds := by
  obtain ⟨rs, hrs, hd⟩ := diagnostics_eq_of_sort hn h
  rw [hd, ← map_id_of_ruledColumns hrs, ← map_fst_reportsFrom [] rs]
  exact List.filter_sublist.map Prod.fst

end Board

end GatherBoard
