import GatherBoard.Proofs.Board.Refusals
import GatherBoard.Proofs.Disk.Loading
import GatherBoard.Proofs.Workflow.Runs

/-!
# What breaks a workflow

A workflow begins with loading a board, and the one that shows facts with loading the
settings before it. After that only overlong integers in headers can break it: a board
that is loaded and whose headers are read is sorted and shown, and it is written unless
the disk does not permit it, which is a board file error.
-/

namespace GatherBoard

/-- The file of a path holds a board with an overlong integer in a header. -/
def Disk.HasOverlongHeader (disk : Disk) (p : Path) : Prop :=
  ∃ t, disk.readFile p = .ok (Text.encode t) ∧
    ∃ c ∈ (Markdown.read t).board.columns, HasOverlong c.title

section

variable {disk : Disk} {p : Path} {write : Bool} {α : Type} {breaks more : Prop}
  {result : Except Failure α}

/-- A workflow comes to the same under an equivalent condition. -/
theorem ComesTo.congr (h : ComesTo disk p write breaks result) (hb : breaks ↔ more) :
    ComesTo disk p write more result := by
  rwa [← propext hb]

/-- A workflow that begins with loading a board is broken by what breaks the loading, and
by what breaks the steps after it. -/
theorem ComesTo.of_load (hm : more → disk.IsReadable p)
    (hfail : ∀ failure, disk.loadBoard p = .error failure → result = .error failure)
    (hok : ∀ reading, disk.loadBoard p = .ok reading → ComesTo disk p write more result) :
    ComesTo disk p write (disk.BreaksLoad p ∨ more) result := by
  cases disk.loadBoard_comesTo p with
  | done reading eq served sound => exact (hok reading eq).congr (or_iff_right sound).symm
  | reported cause eq truthful unserved sound =>
    have hr : ¬ disk.IsReadable p := mt Disk.serves_false_iff.mpr unserved
    exact .reported cause (hfail _ eq) truthful (fun hs => hr hs.1) (by simp [sound, mt hm hr])
  | broken failure eq other broken => exact .broken failure (hfail _ eq) other (Or.inl broken)

/-- Telling what is odd about a file keeps a failure to load it. -/
theorem Disk.tellBoard_of_error {failure : Failure} (h : disk.loadBoard p = .error failure) :
    (disk.tellBoard p).result = .error failure := by
  rw [tellBoard, h]
  rfl

/-- The board that is loaded tells whether a header has an overlong integer. -/
theorem Disk.hasOverlongHeader_iff {reading : Markdown.Reading}
    (h : disk.loadBoard p = .ok reading) :
    disk.HasOverlongHeader p ↔ ∃ c ∈ reading.board.columns, HasOverlong c.title := by
  obtain ⟨bytes, t, hb, hd, rfl⟩ := loadBoard_eq_ok_iff.mp h
  rw [Text.decode_eq_ok_iff] at hd
  subst hd
  constructor
  · rintro ⟨t', ht', c, hc, ho⟩
    rw [loadBoard_of_readFile ht' (Text.decode_encode t'), Except.ok.injEq] at h
    exact ⟨c, h ▸ hc, ho⟩
  · intro ho
    exact ⟨t, hb, ho⟩

/-- A board is loaded from a file that can be read. -/
theorem Disk.isReadable_of_loadBoard {reading : Markdown.Reading}
    (h : disk.loadBoard p = .ok reading) : disk.IsReadable p :=
  let ⟨bytes, _, hb, _⟩ := loadBoard_eq_ok_iff.mp h
  ⟨bytes, hb⟩

/-- A file with an overlong integer in a header can be read. -/
theorem Disk.HasOverlongHeader.isReadable (h : disk.HasOverlongHeader p) : disk.IsReadable p :=
  let ⟨_, ht, _⟩ := h
  ⟨_, ht⟩

/-- If no header has an overlong integer all of them are read. -/
theorem exists_read_of_not_hasOverlong {b : Board} (h : ¬ ∃ c ∈ b.columns, HasOverlong c.title) :
    ∀ c ∈ b.columns, ∃ rules, ColumnRules.read c.title = .ok rules :=
  fun c hc => ColumnRules.exists_read_iff_not_hasOverlong.mpr fun ho => h ⟨c, hc, ho⟩

/-- If a header has an overlong integer not all of them are read. -/
theorem not_forall_read_of_hasOverlong {b : Board} (h : ∃ c ∈ b.columns, HasOverlong c.title) :
    ¬ ∀ c ∈ b.columns, ∃ rules, ColumnRules.read c.title = .ok rules :=
  fun hr =>
    let ⟨c, hc, ho⟩ := h
    ColumnRules.exists_read_iff_not_hasOverlong.mp (hr c hc) ho

/-- A sorting run on a board whose headers are read succeeds, unless it is to write and the
disk does not permit it. -/
theorem runSort_of_sorts {reading : Markdown.Reading} {settings : Settings} {today : Date}
    {plan : Plan} (hl : disk.loadBoard p = .ok reading)
    (hs : reading.board.sort today settings.tagSource = .ok plan) (write : Bool) :
    ComesTo disk p write False (runSort disk p settings today write).result := by
  obtain ⟨bytes, t, hb, hd, rfl⟩ := Disk.loadBoard_eq_ok_iff.mp hl
  have hr : disk.IsReadable p := ⟨bytes, hb⟩
  cases write with
  | false =>
    obtain ⟨run, hrun, -⟩ : ∃ run, (runSort disk p settings today false).result = .ok run ∧
        run.plan = plan := exists_runSort hb hd hs fun hw => absurd hw Bool.false_ne_true
    exact .done run hrun (Disk.serves_false_iff.mpr hr) id
  | true =>
    rcases hr.writeFile_cases with hw | hw
    · obtain ⟨run, hrun, -⟩ := exists_runSort hb hd hs fun _ => hw
      exact .done run hrun ⟨hr, fun _ => hw⟩ id
    · obtain ⟨sorted, ha⟩ := Board.exists_apply_of_sort hs settings.applyColumnOrder
      have hrun : (runSort disk p settings today true).result =
          .error (.boardFile (.unwritable p .denied)) := by
        rw [runSort_eq_saveBoard hl hs ha, Disk.saveBoard, hw]
        rfl
      refine .reported _ hrun (.unwritable _ hr hw) (fun hserved => ?_) id
      obtain ⟨disk', hwrite⟩ := hserved.2 rfl bytes
      rw [hw] at hwrite
      cases hwrite

/-- A sorting run on a board that is loaded is broken by overlong integers only. -/
theorem runSort_of_loaded {reading : Markdown.Reading} (hl : disk.loadBoard p = .ok reading)
    (settings : Settings) (today : Date) (write : Bool) :
    ComesTo disk p write (disk.HasOverlongHeader p)
      (runSort disk p settings today write).result := by
  have ho := Disk.hasOverlongHeader_iff hl
  cases hs : reading.board.sort today settings.tagSource with
  | ok plan =>
    have hn : ¬ disk.HasOverlongHeader p := fun h =>
      not_forall_read_of_hasOverlong (ho.mp h) (Board.exists_sort_iff.mp ⟨plan, hs⟩)
    exact (runSort_of_sorts hl hs write).congr (iff_of_false id hn)
  | error e =>
    have hb : disk.HasOverlongHeader p := by
      by_contra hn
      obtain ⟨plan, hp⟩ : ∃ plan, reading.board.sort today settings.tagSource = .ok plan :=
        Board.exists_sort_iff.mpr (exists_read_of_not_hasOverlong (mt ho.mpr hn))
      rw [hs] at hp
      cases hp
    refine .broken (.unsortable e) ?_ rfl hb
    unfold runSort planSort Board.planSort
    rw [Told.result_andThen, Told.result_andThen, Disk.tellBoard_eq_ok_iff.mpr ⟨_, hl, rfl⟩]
    simp only [bind, Except.bind, hs]
    rfl

/-- A sorting run is broken by what breaks the loading of its board and by overlong
integers. -/
theorem runSort_comesTo (disk : Disk) (p : Path) (settings : Settings) (today : Date)
    (write : Bool) : ComesTo disk p write (disk.BreaksLoad p ∨ disk.HasOverlongHeader p)
      (runSort disk p settings today write).result := by
  refine .of_load Disk.HasOverlongHeader.isReadable (fun failure hl => ?_)
    (fun reading hl => runSort_of_loaded hl settings today write)
  unfold runSort planSort
  rw [Told.result_andThen, Told.result_andThen, Disk.tellBoard_of_error hl]
  rfl

/-- So is showing rules. -/
theorem tellRules_comesTo (disk : Disk) (p : Path) :
    ComesTo disk p false (disk.BreaksLoad p ∨ disk.HasOverlongHeader p)
      (tellRules (disk.tellBoard p)).result := by
  unfold tellRules
  rw [Told.result_andThen]
  refine .of_load Disk.HasOverlongHeader.isReadable (fun failure hl => ?_) (fun reading hl => ?_)
  · rw [Disk.tellBoard_of_error hl]
    rfl
  · have ho := Disk.hasOverlongHeader_iff hl
    have hr := Disk.serves_false_iff.mpr (Disk.isReadable_of_loadBoard hl)
    rw [Disk.tellBoard_eq_ok_iff.mpr ⟨_, hl, rfl⟩]
    simp only [bind, Except.bind, Told.silent]
    cases hrules : reading.board.ruledColumns with
    | ok rs =>
      exact .done rs rfl hr fun h =>
        not_forall_read_of_hasOverlong (ho.mp h) (Board.exists_ruledColumns_iff.mp ⟨rs, hrules⟩)
    | error cause =>
      refine .broken _ rfl rfl ?_
      by_contra hn
      obtain ⟨rs, h⟩ :=
        Board.exists_ruledColumns_iff.mpr (exists_read_of_not_hasOverlong (mt ho.mpr hn))
      rw [hrules] at h
      cases h

/-- Showing facts with settings that are loaded is broken by what breaks the loading of the
board. -/
theorem tellFacts_comesTo (disk : Disk) (p : Path) {told : Told Settings} {settings : Settings}
    (hs : told.result = .ok settings) :
    ComesTo disk p false (disk.BreaksLoad p) (tellFacts told (disk.tellBoard p)).result := by
  unfold tellFacts
  simp only [Told.result_andThen, hs, bind, Except.bind]
  -- nothing after the loading of the board fails
  refine (ComesTo.of_load False.elim (fun failure hl => ?_)
    (fun reading hl => ?_)).congr (or_iff_left id)
  · simp only [Disk.tellBoard_of_error hl]
  · simp only [Disk.tellBoard_eq_ok_iff.mpr ⟨_, hl, rfl⟩]
    exact .done _ rfl (Disk.serves_false_iff.mpr (Disk.isReadable_of_loadBoard hl)) id

end

end GatherBoard
