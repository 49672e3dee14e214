import GatherBoard.Proofs.Board.Targets
import GatherBoard.Proofs.Disk.Rewriting
import GatherBoard.Workflow

/-!
# What a sorting run does

A run that succeeds has loaded a board and sorted it. A run that writes has also
carried the plan out and saved the board; a dry run leaves board and disk as
they are.
-/

namespace GatherBoard

/-- The outcome of two workflows is that of the second after the first. -/
theorem Told.result_andThen {α β : Type} (first : Told α) (next : α → Told β) :
    (first.andThen next).result = first.result >>= fun a => (next a).result := by
  unfold andThen
  cases first.result <;> rfl

variable {disk : Disk} {p : Path} {settings : Settings} {today : Date} {run : SortRun}

/-- Telling what is odd about a file does not change its board. -/
theorem Disk.tellBoard_eq_ok_iff {b : Board} : (disk.tellBoard p).result = .ok b ↔
    ∃ reading, disk.loadBoard p = .ok reading ∧ reading.board = b := by
  unfold Disk.tellBoard
  cases disk.loadBoard p <;> simp [Told.silent]

/-- The plan for a board is the one that sorts it. -/
theorem Board.planSort_eq_ok_iff {b : Board} {planned : Planned} :
    (b.planSort settings today).result = .ok planned ↔
      b = planned.board ∧ planned.board.sort today settings.tagSource = .ok planned.plan := by
  unfold Board.planSort
  cases hs : b.sort today settings.tagSource with
  | error e =>
    simp only [Told.silent, reduceCtorEq, false_iff, not_and]
    rintro rfl hp
    rw [hs] at hp
    cases hp
  | ok plan =>
    rw [Except.ok.injEq]
    constructor
    · rintro rfl
      exact ⟨rfl, hs⟩
    · rintro ⟨rfl, hp⟩
      rw [hs, Except.ok.injEq] at hp
      rw [hp]

/-- A board is planned to be sorted as soon as it is loaded. -/
theorem planSort_eq_ok_iff {planned : Planned} :
    (planSort disk p settings today).result = .ok planned ↔
      ∃ reading, disk.loadBoard p = .ok reading ∧ reading.board = planned.board ∧
        planned.board.sort today settings.tagSource = .ok planned.plan := by
  unfold planSort
  rw [Told.result_andThen, bind_eq_ok_iff]
  simp only [Disk.tellBoard_eq_ok_iff, Board.planSort_eq_ok_iff]
  constructor
  · rintro ⟨_, ⟨reading, hl, rfl⟩, hb, hs⟩
    exact ⟨reading, hl, hb, hs⟩
  · rintro ⟨reading, hl, hb, hs⟩
    exact ⟨_, ⟨reading, hl, rfl⟩, hb, hs⟩

/-- A plan is carried out before the board is saved. -/
theorem Planned.save_eq_ok_iff {planned : Planned} :
    (planned.save disk p settings).result = .ok run ↔
      planned.board.apply planned.plan settings.tagSource settings.applyColumnOrder = .ok run.board ∧
        disk.saveBoard p run.board = .ok run.disk ∧ run.plan = planned.plan := by
  unfold Planned.save
  cases ha : planned.board.apply planned.plan settings.tagSource settings.applyColumnOrder with
  | error e => simp [Told.silent]
  | ok sorted =>
    cases hs : disk.saveBoard p sorted with
    | error e =>
      simp only [hs, Told.silent, reduceCtorEq, Except.ok.injEq, false_iff, not_and]
      rintro rfl hd
      rw [hs] at hd
      cases hd
    | ok disk' =>
      simp only [hs, Except.ok.injEq]
      constructor
      · rintro rfl
        exact ⟨rfl, hs, rfl⟩
      · rintro ⟨rfl, hd, hp⟩
        rw [hs, Except.ok.injEq] at hd
        rw [hd, ← hp]

/-- A run that writes loads a board, sorts it, carries the plan out and saves the
board. -/
theorem runSort_eq_ok_iff : (runSort disk p settings today true).result = .ok run ↔
    ∃ reading, disk.loadBoard p = .ok reading ∧
      reading.board.sort today settings.tagSource = .ok run.plan ∧
      reading.board.apply run.plan settings.tagSource settings.applyColumnOrder = .ok run.board ∧
      disk.saveBoard p run.board = .ok run.disk := by
  unfold runSort
  rw [Told.result_andThen, bind_eq_ok_iff]
  simp only [planSort_eq_ok_iff, ↓reduceIte, Planned.save_eq_ok_iff]
  constructor
  · rintro ⟨planned, ⟨reading, hl, hb, hs⟩, ha, hd, hp⟩
    rw [← hb, ← hp] at hs ha
    exact ⟨reading, hl, hs, ha, hd⟩
  · rintro ⟨reading, hl, hs, ha, hd⟩
    exact ⟨⟨reading.board, run.plan⟩, ⟨reading, hl, rfl, hs⟩, ha, hd, rfl⟩

/-- A dry run loads a board and sorts it, and that is all. -/
theorem runSort_dry_eq_ok_iff : (runSort disk p settings today false).result = .ok run ↔
    ∃ reading, disk.loadBoard p = .ok reading ∧
      reading.board.sort today settings.tagSource = .ok run.plan ∧
      run.board = reading.board ∧ run.disk = disk := by
  unfold runSort
  rw [Told.result_andThen, bind_eq_ok_iff]
  simp only [planSort_eq_ok_iff, Bool.false_eq_true, ↓reduceIte, Told.silent, Except.ok.injEq]
  constructor
  · rintro ⟨planned, ⟨reading, hl, hb, hs⟩, rfl⟩
    rw [← hb] at hs
    exact ⟨reading, hl, hs, hb.symm, rfl⟩
  · rintro ⟨reading, hl, hs, hb, hd⟩
    rw [← hb] at hs
    exact ⟨⟨run.board, run.plan⟩, ⟨reading, hl, hb.symm, hs⟩, by rw [← hd]⟩

/-- A board that is loaded and sorted, with a plan that can be carried out, is all that a
run needs to come to the saving of the sorted board. -/
theorem runSort_eq_saveBoard {reading : Markdown.Reading} {plan : Plan} {sorted : Board}
    (hl : disk.loadBoard p = .ok reading)
    (hs : reading.board.sort today settings.tagSource = .ok plan)
    (ha : reading.board.apply plan settings.tagSource settings.applyColumnOrder = .ok sorted) :
    (runSort disk p settings today true).result =
      (disk.saveBoard p sorted).map fun disk' => ⟨sorted, plan, disk'⟩ := by
  have hplan : (planSort disk p settings today).result = .ok ⟨reading.board, plan⟩ :=
    planSort_eq_ok_iff.mpr ⟨reading, hl, rfl, hs⟩
  unfold runSort
  rw [Told.result_andThen, hplan]
  simp only [bind, Except.bind, ↓reduceIte, Planned.save, ha]
  cases disk.saveBoard p sorted <;> rfl

/-- A file that may be written is saved. -/
theorem Disk.IsWritable.exists_saveBoard (h : disk.IsWritable p) (b : Board) :
    ∃ disk', disk.saveBoard p b = .ok disk' := by
  obtain ⟨disk', hw⟩ := h (Text.encode (Markdown.write b))
  exact ⟨disk', Disk.saveBoard_eq_ok_iff.mpr hw⟩

/-- A file that holds a text is sorted, without writing or if it may be written, if the
board of this text can be sorted. -/
theorem exists_runSort {bytes : ByteArray} {t : Text} {plan : Plan} {write : Bool}
    (hf : disk.readFile p = .ok bytes) (hd : Text.decode bytes = .ok t)
    (hs : (Markdown.read t).board.sort today settings.tagSource = .ok plan)
    (hw : write = true → disk.IsWritable p) :
    ∃ run, (runSort disk p settings today write).result = .ok run ∧ run.plan = plan := by
  have hl := Disk.loadBoard_of_readFile hf hd
  cases write with
  | false => exact ⟨⟨_, plan, disk⟩, runSort_dry_eq_ok_iff.mpr ⟨_, hl, hs, rfl, rfl⟩, rfl⟩
  | true =>
    obtain ⟨sorted, ha⟩ := Board.exists_apply_of_sort hs settings.applyColumnOrder
    obtain ⟨disk', hsave⟩ := (hw rfl).exists_saveBoard sorted
    refine ⟨⟨sorted, plan, disk'⟩, ?_, rfl⟩
    rw [runSort_eq_saveBoard hl hs ha, hsave]
    rfl

end GatherBoard
