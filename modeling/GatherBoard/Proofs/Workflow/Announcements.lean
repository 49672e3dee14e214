import GatherBoard.Proofs.Board.Problems
import GatherBoard.Proofs.Workflow.Runs

/-!
# What is told when a board is planned

Planning the sorting of a board tells every problem of its columns once, as a warning, and
after them every card that changes its column, for debugging. Both stand in the order of the
board. What loading the board tells goes to another log.
-/

namespace GatherBoard

/-- The log of the workflows. -/
def planLog : Text := "kanbansort.workflows".toList

/-- The level and the words that a log notes of an event. -/
def Event.record (e : Event) : Level × Text := (e.level, e.message)

/-- What one log notes of the events of a workflow. -/
def recordsIn (log : Text) (events : List Event) : List (Level × Text) :=
  (events.filter fun e => e.source == log).map Event.record

/-- The warning of a problem of a column. -/
def problemRecord (column : Text) (d : Diagnostic) : Level × Text :=
  (.warning, "Column ".toList ++ column ++ ": ".toList ++ (d.tag ++ ": ".toList ++ d.problem.reason))

/-- The note that a card goes from its column to another. -/
def moveRecord (move : Placement) : Level × Text :=
  (.debug, "Move ".toList ++ move.card ++ ": ".toList ++ move.source ++ " -> ".toList ++
    move.target.getD [])

/-- One warning for each problem of a plan, and after them one note for each card whose target
is another column than its own. -/
def Plan.records (plan : Plan) : List (Level × Text) :=
  plan.diagnostics.flatMap (fun entry => entry.2.map (problemRecord entry.1)) ++
    (plan.placements.filter fun m => m.target ≠ none ∧ m.target ≠ some m.source).map moveRecord

/-- A card moves if its target is another column than its own. -/
theorem Placement.isMove_eq (m : Placement) :
    m.isMove = decide (m.target ≠ none ∧ m.target ≠ some m.source) := by
  unfold isMove
  cases m.target with
  | none => simp
  | some target => simp [bne, beq_eq_decide]

/-- The events of a plan go to the log of the workflows. -/
theorem Plan.source_of_mem_events {plan : Plan} {e : Event} (h : e ∈ plan.events) :
    e.source = planLog := by
  rw [events, List.mem_append, List.mem_flatMap, List.mem_map] at h
  rcases h with ⟨entry, -, hm⟩ | ⟨move, -, heq⟩
  · obtain ⟨d, -, heq⟩ := List.mem_map.mp hm
    rw [← heq]
    rfl
  · rw [← heq]
    rfl

/-- The events of a plan are noted as its records. -/
theorem Plan.recordsIn_events (plan : Plan) : recordsIn planLog plan.events = plan.records := by
  have hall : plan.events.filter (fun e => e.source == planLog) = plan.events :=
    List.filter_eq_self.mpr fun e he => beq_iff_eq.mpr (source_of_mem_events he)
  have hmoves : plan.moves =
      plan.placements.filter fun m => m.target ≠ none ∧ m.target ≠ some m.source :=
    List.filter_congr fun m _ => m.isMove_eq
  rw [recordsIn, hall, events, records, hmoves, List.map_append, List.map_flatMap, List.map_map]
  simp only [List.map_map]
  rfl

/-- What loading a board tells goes to another log. -/
theorem Disk.source_of_mem_tellBoard {disk : Disk} {p : Path} {e : Event}
    (h : e ∈ (disk.tellBoard p).events) : e.source ≠ planLog := by
  unfold tellBoard at h
  cases hl : disk.loadBoard p with
  | error cause =>
    rw [hl] at h
    cases h
  | ok reading =>
    rw [hl] at h
    obtain ⟨bytes, t, -, -, rfl⟩ := loadBoard_eq_ok_iff.mp hl
    have hsource : e.source = "kanbansort.adapters.markdown_board".toList := by
      simp only [Markdown.read, List.mem_append, List.mem_map] at h
      rcases h with ⟨item, -, heq⟩ | hopen
      · rw [← heq]
        rfl
      · split at hopen
        · rw [List.mem_singleton.mp hopen]
          rfl
        · cases hopen
    rw [hsource]
    decide

namespace Board

variable {b : Board} {today : Date} {select : TextSelector} {plan : Plan}

/-- The placements of a plan stand in the order of the cards. -/
theorem forall₂_traversal_placements (h : b.sort today select = .ok plan) :
    List.Forall₂ (fun x m => m.card = x.2.id ∧ m.source = x.1.id) b.traversal plan.placements :=
  (forall₂_placements h).imp fun _ _ hm => ⟨hm.1, hm.2.1⟩

/-- A board that is loaded and sorted has its plan told. -/
theorem recordsIn_planSort {settings : Settings} {loaded : Told Board}
    (hl : loaded.result = .ok b) (hother : ∀ e ∈ loaded.events, e.source ≠ planLog)
    (h : b.sort today settings.tagSource = .ok plan) :
    recordsIn planLog (loaded.andThen fun board => board.planSort settings today).events =
      plan.records := by
  have hevents : (loaded.andThen fun board => board.planSort settings today).events =
      loaded.events ++ plan.events := by
    simp only [Told.andThen, hl, planSort, h]
  have hnone : loaded.events.filter (fun e => e.source == planLog) = [] :=
    List.filter_eq_nil_iff.mpr fun e he hs => hother e he (beq_iff_eq.mp hs)
  rw [hevents, ← plan.recordsIn_events]
  simp only [recordsIn, List.filter_append, hnone, List.nil_append]

/-- Every problem of a board of different columns is reported once. The plan lists the problems
of the columns that have some, in the order of the columns: those of the header, and after them
that a late fallback column is ignored. When the board was loaded, by whatever way tells nothing
in the log of the workflows, planning tells there one warning for each of these problems in their
order, and after them one note for each card that changes its column, in the order of the cards.
Loading a board from a file is such a way. -/
theorem sort_reports_once (hn : b.columnIds.Nodup) (h : b.sort today select = .ok plan) :
    (∀ c ∈ b.columns, ∃ found, HasProblems b.headings c.id c.title found ∧
      (∀ found', HasProblems b.headings c.id c.title found' → found' = found) ∧
      ∀ listed, (c.id, listed) ∈ plan.diagnostics ↔ listed = found ∧ found ≠ []) ∧
    (plan.diagnostics.map Prod.fst).Sublist b.columnIds ∧
    (∀ entry ∈ plan.diagnostics, entry.2 ≠ []) ∧
    List.Forall₂ (fun x m => m.card = x.2.id ∧ m.source = x.1.id) b.traversal plan.placements ∧
    (∀ (settings : Settings) (loaded : Told Board), settings.tagSource.textOf = select →
      loaded.result = .ok b → (∀ e ∈ loaded.events, e.source ≠ planLog) →
      recordsIn planLog (loaded.andThen fun board => board.planSort settings today).events =
        plan.records) ∧
    ∀ (disk : Disk) (p : Path) (settings : Settings),
      GatherBoard.planSort disk p settings today =
        (disk.tellBoard p).andThen (fun board => board.planSort settings today) ∧
      ∀ e ∈ (disk.tellBoard p).events, e.source ≠ planLog := by
  refine ⟨?_, diagnostics_sublist hn h, ?_, forall₂_traversal_placements h, ?_, ?_⟩
  · intro c hc
    obtain ⟨found, hfound⟩ := exists_hasProblems h hc
    refine ⟨found, hfound, fun found' h' => hasProblems_unique hn h' hfound, fun listed => ?_⟩
    rw [mem_diagnostics_iff hn h]
    constructor
    · intro hlisted
      obtain ⟨hne, header, hproblems⟩ := hlisted
      have heq : listed = found := hasProblems_unique hn hproblems hfound
      exact ⟨heq, heq ▸ hne⟩
    · intro hlisted
      exact ⟨hlisted.1 ▸ hlisted.2, c.title, hlisted.1 ▸ hfound⟩
  · intro entry hm
    exact ((mem_diagnostics_iff hn h).mp hm).1
  · intro settings loaded hselect hl hother
    exact recordsIn_planSort hl hother (hselect ▸ h)
  · intro disk p settings
    exact ⟨rfl, fun e => Disk.source_of_mem_tellBoard⟩

end Board

/-- A board with an empty gather tag on its first fallback column, a column without problems, a
late fallback column with a clause that is none, and a late fallback column without rules. -/
def muddleBoard : Board where
  columns := [
    ⟨"a".toList, "Inbox #unsorted #gather_|".toList, [⟨"1".toList, "@Reto".toList, [], false⟩]⟩,
    ⟨"b".toList, "Reto #gather_reto".toList, [
      ⟨"2".toList, "@bob".toList, [], false⟩, ⟨"3".toList, "@RETO".toList, [], false⟩]⟩,
    ⟨"c".toList, "Later #unsorted #gather_day<x|bob #ungathered".toList, []⟩,
    ⟨"d".toList, "Old #ungathered".toList, []⟩]
  title := []
  header := none
  footer := none

/-- The day on which it is sorted. -/
def muddleDay : Date := ⟨2022, 9, 26, by decide, by decide, by decide⟩

/-- The plan of that day. -/
def muddlePlan : Plan where
  placements := [
    ⟨"1".toList, "a".toList, some "b".toList⟩,
    ⟨"2".toList, "b".toList, some "c".toList⟩,
    ⟨"3".toList, "b".toList, some "b".toList⟩]
  diagnostics := [
    ("a".toList, [⟨"#gather_|".toList, .noClause⟩]),
    ("c".toList, [
      ⟨"#gather_day<x|bob".toList, .dropped "day<x".toList (.notInteger "day".toList "x".toList)⟩,
      ⟨ungatheredTag, .secondFallback "Inbox #unsorted #gather_|".toList⟩]),
    ("d".toList, [⟨ungatheredTag, .secondFallback "Inbox #unsorted #gather_|".toList⟩])]

/-- Its problems are reported once: four warnings, and a note for each of the two cards that go
elsewhere. -/
theorem muddleBoard_reported :
    (muddleBoard.columnIds.Nodup ∧
      muddleBoard.sort muddleDay TagSource.titleAndDescription = .ok muddlePlan) ∧
    (∀ c ∈ muddleBoard.columns, ∃ found, HasProblems muddleBoard.headings c.id c.title found ∧
      ∀ listed, (c.id, listed) ∈ muddlePlan.diagnostics ↔ listed = found ∧ found ≠ []) ∧
    recordsIn planLog ((Told.silent (.ok muddleBoard)).andThen fun board =>
      board.planSort Settings.default muddleDay).events = muddlePlan.records ∧
    muddlePlan.records.map Prod.fst = [.warning, .warning, .warning, .warning, .debug, .debug] := by
  have hids : muddleBoard.columnIds.Nodup := by decide
  have hsort : muddleBoard.sort muddleDay TagSource.titleAndDescription = .ok muddlePlan := by
    decide +kernel
  obtain ⟨hproblems, -, -, -, hrecords, -⟩ := Board.sort_reports_once hids hsort
  refine ⟨⟨hids, hsort⟩, fun c hc => ?_, ?_, by decide⟩
  · obtain ⟨found, hfound, -, hlisted⟩ := hproblems c hc
    exact ⟨found, hfound, hlisted⟩
  · exact hrecords Settings.default (Told.silent (.ok muddleBoard)) rfl rfl (fun e he => by cases he)

end GatherBoard
