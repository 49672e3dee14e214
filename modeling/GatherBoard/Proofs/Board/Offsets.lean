import GatherBoard.Proofs.Board.Targets

/-!
# Sorting on different days

The day enters a plan only where the header of a column asks how many days there are
to a due date. If the answers to these questions are the same on two days, every card
is sent to the same column on both, and the boards' plans are equal.
-/

namespace GatherBoard

/-- The comparison of the days to a due date comes out the same on two days. -/
def Atom.AgreesOn (a : Atom) (due today today' : Date) : Prop :=
  a.comparison.holds (.number (due.dayOffset today)) a.value =
    a.comparison.holds (.number (due.dayOffset today')) a.value

/-- Whether it does can be computed. -/
instance (a : Atom) (due today today' : Date) : Decidable (a.AgreesOn due today today') :=
  inferInstanceAs (Decidable (_ = _))

/-- The atoms among some rules that ask for days to a due date. -/
def ColumnRules.offsetAtoms (rules : ColumnRules) : List Atom :=
  rules.clauses.flatMap fun c => c.atoms.filter fun a => a.field = .dayOffset

namespace Board

/-- The atoms among the headers of a board that ask for days to a due date. -/
def offsetAtoms (b : Board) : List Atom :=
  b.columns.flatMap fun c =>
    match ColumnRules.read c.title with
    | .ok rules => rules.offsetAtoms
    | .error _ => []

/-- The due dates of the cards of a board. -/
def dueDates (b : Board) (select : TextSelector) : List Date :=
  b.cards.filterMap fun card => (select.factsOf card).dueDate

/-- All questions of a board for days to due dates have the same answers on two days. -/
def AgreesOn (b : Board) (select : TextSelector) (today today' : Date) : Prop :=
  ∀ a ∈ b.offsetAtoms, ∀ due ∈ b.dueDates select, a.AgreesOn due today today'

end Board

section Agreement

variable {facts : Facts} {today today' : Date}

/-- An atom that asks for days to the due date only in a question with the same answer on
both days is the same on both. -/
theorem Atom.holds_congr_day {a : Atom}
    (h : a.field = .dayOffset → ∀ due, facts.dueDate = some due → a.AgreesOn due today today') :
    a.holds facts today = a.holds facts today' := by
  unfold Atom.holds
  cases hf : a.field with
  | person => rfl
  | weekday | weekdayNum | month | monthNum => rfl
  | dayOffset =>
    cases hd : facts.dueDate with
    | none => rfl
    | some due =>
      have ha : a.comparison.holds (.number (due.dayOffset today)) a.value =
          a.comparison.holds (.number (due.dayOffset today')) a.value := h hf due hd
      simp only [Field.value?, ha]

/-- Rules whose questions for days have the same answers match the same facts. -/
theorem ColumnRules.matchesCard_congr_day {rules : ColumnRules}
    (h : ∀ a ∈ rules.offsetAtoms, ∀ due, facts.dueDate = some due → a.AgreesOn due today today') :
    rules.matchesCard facts today = rules.matchesCard facts today' := by
  refine anyM_congr fun c hc => allM_congr fun a ha => Atom.holds_congr_day fun hf => h a ?_
  exact List.mem_flatMap.mpr ⟨c, hc, List.mem_filter.mpr ⟨ha, by simpa using hf⟩⟩

/-- Such rules gather the same column. -/
theorem gatheringColumn?_congr_day {rs : List RuledColumn}
    (h : ∀ r ∈ rs, r.rules.matchesCard facts today = r.rules.matchesCard facts today') :
    gatheringColumn? rs facts today = gatheringColumn? rs facts today' := by
  induction rs with
  | nil => rfl
  | cons r rs ih =>
    rw [List.forall_mem_cons] at h
    rw [gatheringColumn?, gatheringColumn?, h.1, ih h.2]

/-- So the target is the same: neither the fallback column nor whether a card stays depends
on the day. -/
theorem targetColumn?_congr_day {rs : List RuledColumn}
    (h : ∀ r ∈ rs, r.rules.matchesCard facts today = r.rules.matchesCard facts today') :
    targetColumn? rs facts today = targetColumn? rs facts today' := by
  rw [targetColumn?, targetColumn?, gatheringColumn?_congr_day h]

end Agreement

namespace Board

variable {b : Board} {select : TextSelector} {today today' : Date}

/-- The questions of a column for days are questions of its board. -/
theorem mem_offsetAtoms {rs : List RuledColumn} (hr : b.ruledColumns = .ok rs) {r : RuledColumn}
    (hm : r ∈ rs) {a : Atom} (ha : a ∈ r.rules.offsetAtoms) : a ∈ b.offsetAtoms := by
  obtain ⟨c, hc, hread, -⟩ := exists_of_forall₂_of_mem (ruledColumns_eq_ok_iff.mp hr) hm
  exact List.mem_flatMap.mpr ⟨c, hc, by rw [hread]; exact ha⟩

/-- The due date of a card is one of the board's. -/
theorem mem_dueDates {x : Column × Card} (hx : x ∈ b.traversal) {due : Date}
    (hd : (select.factsOf x.2).dueDate = some due) : due ∈ b.dueDates select := by
  have hcard : x.2 ∈ b.cards := by
    rw [← map_snd_traversal]
    exact List.mem_map_of_mem hx
  exact List.mem_filterMap.mpr ⟨x.2, hcard, hd⟩

/-- A board whose questions for days have the same answers on two days has the same target
for each card. -/
theorem AgreesOn.targetColumn?_eq (h : b.AgreesOn select today today') {rs : List RuledColumn}
    (hr : b.ruledColumns = .ok rs) {x : Column × Card} (hx : x ∈ b.traversal) :
    targetColumn? rs (select.factsOf x.2) today = targetColumn? rs (select.factsOf x.2) today' :=
  targetColumn?_congr_day fun _ hm => ColumnRules.matchesCard_congr_day fun a ha due hd =>
    h a (mem_offsetAtoms hr hm ha) due (mem_dueDates hx hd)

/-- The sorting of a board depends on the day only through the comparisons of offsets that
its headers ask for: where these come out the same on two days for all due dates of its
cards, the sortings are equal, with all placements and diagnostics. In particular they are
if no header asks for an offset, or if no card has a due date. -/
theorem sort_depends_on_offsets (b : Board) (select : TextSelector) (today today' : Date) :
    (b.AgreesOn select today today' → b.sort today select = b.sort today' select) ∧
    (b.offsetAtoms = [] ∨ b.dueDates select = [] → b.sort today select = b.sort today' select) := by
  have hsort (h : b.AgreesOn select today today') : b.sort today select = b.sort today' select := by
    unfold Board.sort
    refine bind_congr_of_ok fun rs hr => ?_
    -- the diagnostics are those of the headers, so only the placements are left
    refine congrArg₂ bind (mapM_congr fun x hx => ?_) rfl
    have ht := h.targetColumn?_eq (mapError_eq_ok_iff.mp hr) hx
    simp only [ht]
  refine ⟨hsort, fun hnone => hsort fun a ha due hd => ?_⟩
  rcases hnone with hn | hn
  · rw [hn] at ha
    cases ha
  · rw [hn] at hd
    cases hd

end Board

/-- A board with a column for what is due within nine days, on a Monday in January. -/
def yearEndBoard : Board where
  columns := [
    ⟨"a".toList, "Inbox".toList, [
      ⟨"1".toList, "Taxes".toList, "@2028-01-03".toList, false⟩,
      ⟨"2".toList, "Call @Ann".toList, [], false⟩]⟩,
    ⟨"b".toList, "Soon #gather_dayoffset<10&weekday=mon&month=jan|day=soon".toList, []⟩,
    ⟨"c".toList, "Rest #ungathered".toList, []⟩]
  title := []
  header := none
  footer := none

/-- The last day of a year. -/
def yearEnd : Date := ⟨2027, 12, 31, by decide, by decide, by decide⟩

/-- The day after it. -/
def newYear : Date := ⟨2028, 1, 1, by decide, by decide, by decide⟩

/-- The plan of both days. -/
def yearEndPlan : Plan where
  placements := [
    ⟨"1".toList, "a".toList, some "b".toList⟩,
    ⟨"2".toList, "a".toList, some "c".toList⟩]
  diagnostics := [("b".toList, [⟨"#gather_dayoffset<10&weekday=mon&month=jan|day=soon".toList,
    .dropped "day=soon".toList (.notInteger "day".toList "soon".toList)⟩])]

/-- The card is due within nine days on both days, so they have the same plan. Read by
titles only the board has no due date, so nothing depends on the day. -/
theorem yearEndBoard_sorted_alike :
    yearEndBoard.AgreesOn TagSource.titleAndDescription yearEnd newYear ∧
    yearEndBoard.sort yearEnd TagSource.titleAndDescription = .ok yearEndPlan ∧
    yearEndBoard.sort newYear TagSource.titleAndDescription = .ok yearEndPlan ∧
    yearEndBoard.dueDates TagSource.title = [] ∧
    yearEndBoard.sort yearEnd TagSource.title = yearEndBoard.sort newYear TagSource.title := by
  have hagree : yearEndBoard.AgreesOn TagSource.titleAndDescription yearEnd newYear := by
    unfold Board.AgreesOn
    decide +kernel
  have hsort : yearEndBoard.sort yearEnd TagSource.titleAndDescription = .ok yearEndPlan := by
    decide +kernel
  have hdue : yearEndBoard.dueDates TagSource.title = [] := by decide +kernel
  have hday := (Board.sort_depends_on_offsets yearEndBoard TagSource.titleAndDescription yearEnd
    newYear).1 hagree
  have hnone := (Board.sort_depends_on_offsets yearEndBoard TagSource.title yearEnd
    newYear).2 (Or.inr hdue)
  exact ⟨hagree, hsort, hday ▸ hsort, hdue, hnone⟩

end GatherBoard
