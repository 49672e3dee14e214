import GatherBoard.Disk.BoardFile
import GatherBoard.Proofs.Outcome

/-!
# Writing a file again

Writing a file changes what is at its place and nothing else: neither the
working directory nor any permission. No path leads through a file, so the
path of the file leads to the same place as before, where the new bytes are.
Writing the same bytes again changes nothing.
-/

namespace GatherBoard.Disk

variable {disk disk' : Disk} {p : Path} {place : Place} {bytes : ByteArray}

/-- Where no directory is, there is none that is always there. -/
theorem not_isPrefixOf_workingDirectory (h : disk.lookup? place ≠ some .directory) :
    ¬ place.isPrefixOf disk.workingDirectory = true :=
  fun hp => h (if_pos hp)

/-- What was put at a place is there. -/
theorem lookup?_set_self (h : disk.lookup? place ≠ some .directory) (entry : Option Entry) :
    (disk.set place entry).lookup? place = entry := by
  have hp := not_isPrefixOf_workingDirectory h
  simp only [lookup?, set, hp, Bool.false_eq_true, ↓reduceIte]

/-- Elsewhere everything is as before. -/
theorem lookup?_set_of_ne {other : Place} (h : other ≠ place) (entry : Option Entry) :
    (disk.set place entry).lookup? other = disk.lookup? other := by
  simp only [lookup?, set, h, ↓reduceIte]

/-- Permissions are as before. -/
@[simp]
theorem denies_set (disk : Disk) (place : Place) (entry : Option Entry) :
    (disk.set place entry).denies = disk.denies := rfl

/-- Paths begin where they began before. -/
@[simp]
theorem start_set (disk : Disk) (place : Place) (entry : Option Entry) (p : Path) :
    (disk.set place entry).start p = disk.start p := rfl

/-- Names lead to the same place after a file is put there. -/
theorem follow_set {start : Place} {names : List Text} (h : disk.follow start names = .ok place)
    (hd : disk.lookup? place ≠ some .directory) (entry : Option Entry) :
    (disk.set place entry).follow start names = .ok place := by
  induction names generalizing start with
  | nil => exact h
  | cons name more ih =>
    unfold follow at h ⊢
    cases he : disk.lookup? start with
    | none => simp [he] at h
    | some found =>
      cases found with
      | file old => simp [he] at h
      | directory =>
        -- a directory on the way is not the place where the file is put
        have hne : start ≠ place := fun hs => hd (hs ▸ he)
        rw [lookup?_set_of_ne hne, he, denies_set]
        simp only [he] at h ⊢
        split at h
        · cases h
        · next hs =>
          rw [if_neg hs]
          split at h
          · cases h
          · next hl => rw [if_neg hl, ih h]

/-- A path leads to the same place after a file is put there. -/
theorem locate_set (h : disk.locate p = .ok place) (hd : disk.lookup? place ≠ some .directory)
    (entry : Option Entry) : (disk.set place entry).locate p = .ok place := by
  unfold locate at h ⊢
  split at h
  · cases h
  · next hl => rw [if_neg hl, start_set, follow_set h hd]

/-- A file is written where its path leads, unless a directory is there or the permission is
missing. -/
theorem writeFile_eq_ok_iff : disk.writeFile p bytes = .ok disk' ↔
    ∃ place, disk.locate p = .ok place ∧ disk.lookup? place ≠ some .directory ∧
      disk.denies .write place = false ∧ disk' = disk.set place (some (.file bytes)) := by
  unfold writeFile
  rw [bind_eq_ok_iff]
  refine exists_congr (fun place => and_congr_right (fun _ => ?_))
  cases disk.denies .write place with
  | true =>
    cases disk.lookup? place with
    | none => simp
    | some found => cases found <;> simp
  | false =>
    cases disk.lookup? place with
    | none => simp [pure, Except.pure, eq_comm]
    | some found => cases found <;> simp [pure, Except.pure, eq_comm]

/-- The bytes of a file are those at the place where its path leads, if they may be read. -/
theorem readFile_eq_ok_iff : disk.readFile p = .ok bytes ↔
    ∃ place, disk.locate p = .ok place ∧ disk.lookup? place = some (.file bytes) ∧
      disk.denies .read place = false := by
  unfold readFile
  rw [bind_eq_ok_iff]
  refine exists_congr (fun place => and_congr_right (fun _ => ?_))
  cases disk.lookup? place with
  | none => simp
  | some found =>
    cases disk.denies .read place with
    | true => simp
    | false => cases found <;> simp [pure, Except.pure]

/-- A file that is put at a place can be read, if this is permitted there. -/
theorem readFile_set (hl : disk.locate p = .ok place)
    (hd : disk.lookup? place ≠ some .directory) (hr : disk.denies .read place = false)
    (bytes : ByteArray) : (disk.set place (some (.file bytes))).readFile p = .ok bytes :=
  readFile_eq_ok_iff.mpr ⟨place, locate_set hl hd _, lookup?_set_self hd _, hr⟩

/-- Some bytes are in the file of a path, and may be read. -/
def IsReadable (disk : Disk) (p : Path) : Prop := ∃ bytes, disk.readFile p = .ok bytes

/-- Any bytes may be written to the file of a path. -/
def IsWritable (disk : Disk) (p : Path) : Prop :=
  ∀ bytes, ∃ disk', disk.writeFile p bytes = .ok disk'

/-- A file that is put at a place can be written, if this is permitted there. -/
theorem isWritable_set (hl : disk.locate p = .ok place)
    (hd : disk.lookup? place ≠ some .directory) (hw : disk.denies .write place = false)
    (bytes : ByteArray) : (disk.set place (some (.file bytes))).IsWritable p :=
  fun _ => ⟨_, writeFile_eq_ok_iff.mpr
    ⟨place, locate_set hl hd _, by simp [lookup?_set_self hd], hw, rfl⟩⟩

/-- A disk with nothing but the root has nothing below it. -/
theorem lookup?_empty (h : place ≠ []) : empty.lookup? place = none := by
  cases place with
  | nil => exact absurd rfl h
  | cons name names => rfl

/-- The only file on a disk can be read. -/
theorem readFile_alone (hl : empty.locate p = .ok place) (h : place ≠ []) (bytes : ByteArray) :
    (empty.set place (some (.file bytes))).readFile p = .ok bytes :=
  readFile_set hl (by simp [lookup?_empty h]) rfl bytes

/-- The only file on a disk can be written. -/
theorem isWritable_alone (hl : empty.locate p = .ok place) (h : place ≠ []) (bytes : ByteArray) :
    (empty.set place (some (.file bytes))).IsWritable p :=
  isWritable_set hl (by simp [lookup?_empty h]) rfl bytes

/-- A file that could be read has the bytes that were written to it. -/
theorem readFile_of_writeFile {old : ByteArray} (hr : disk.readFile p = .ok old)
    (h : disk.writeFile p bytes = .ok disk') : disk'.readFile p = .ok bytes := by
  obtain ⟨place, hl, hd, -, rfl⟩ := writeFile_eq_ok_iff.mp h
  obtain ⟨place', hl', -, hp⟩ := readFile_eq_ok_iff.mp hr
  rw [hl, Except.ok.injEq] at hl'
  exact readFile_set hl hd (hl' ▸ hp) bytes

/-- Of two writings of one file the last counts. -/
theorem writeFile_writeFile (h : disk.writeFile p bytes = .ok disk') (more : ByteArray) :
    disk'.writeFile p more = disk.writeFile p more := by
  obtain ⟨place, hl, hd, hp, rfl⟩ := writeFile_eq_ok_iff.mp h
  rw [writeFile_eq_ok_iff.mpr ⟨place, hl, hd, hp, rfl⟩]
  refine writeFile_eq_ok_iff.mpr
    ⟨place, locate_set hl hd _, by simp [lookup?_set_self hd], hp, ?_⟩
  unfold set
  congr 1
  funext other
  by_cases ho : other = place <;> simp [ho]

/-- Writing the same bytes again leaves the disk as it is. -/
theorem writeFile_of_writeFile (h : disk.writeFile p bytes = .ok disk') :
    disk'.writeFile p bytes = .ok disk' := by
  rw [writeFile_writeFile h, h]

/-- A file that can be read is there. -/
theorem find_of_readFile (h : disk.readFile p = .ok bytes) : disk.find p = .ok (.file bytes) := by
  obtain ⟨place, hl, hf, -⟩ := readFile_eq_ok_iff.mp h
  rw [find, hl]
  simp only [bind, Except.bind, hf]
  rfl

/-- A path that leads to something holds. -/
theorem holds_of_find {entry : Entry} (h : disk.find p = .ok entry) : disk.holds p = .ok true := by
  rw [holds, h]

/-- A file that holds a text is loaded as the board of this text. -/
theorem loadBoard_of_readFile (h : disk.readFile p = .ok bytes) {t : Text}
    (ht : Text.decode bytes = .ok t) : disk.loadBoard p = .ok (Markdown.read t) := by
  simp [loadBoard, holds_of_find (find_of_readFile h), h, ht, Except.mapError, bind, Except.bind,
    pure, Except.pure]

/-- A board is loaded from a file that holds a text. -/
theorem loadBoard_eq_ok_iff {reading : Markdown.Reading} : disk.loadBoard p = .ok reading ↔
    ∃ bytes t, disk.readFile p = .ok bytes ∧ Text.decode bytes = .ok t ∧
      Markdown.read t = reading := by
  constructor
  · intro h
    unfold loadBoard at h
    simp only [bind_eq_ok_iff, mapError_eq_ok_iff] at h
    obtain ⟨found, -, h⟩ := h
    cases found with
    | false => cases h
    | true =>
      simp only [Bool.not_true, Bool.false_eq_true, ↓reduceIte, bind_eq_ok_iff, mapError_eq_ok_iff]
        at h
      obtain ⟨bytes, hb, t, ht, ⟨⟩⟩ := h
      exact ⟨bytes, t, hb, ht, rfl⟩
  · rintro ⟨bytes, t, hb, ht, rfl⟩
    exact loadBoard_of_readFile hb ht

/-- Saving a board is writing its text. -/
theorem saveBoard_eq_ok_iff {b : Board} : disk.saveBoard p b = .ok disk' ↔
    disk.writeFile p (Text.encode (Markdown.write b)) = .ok disk' := by
  unfold saveBoard
  cases disk.writeFile p (Text.encode (Markdown.write b)) <;> simp [Except.mapError]

/-- A file that can be read can be written, or nothing is permitted to be written to it. -/
theorem IsReadable.writeFile_cases (h : disk.IsReadable p) :
    disk.IsWritable p ∨ ∀ bytes, disk.writeFile p bytes = .error .denied := by
  obtain ⟨old, hb⟩ := h
  obtain ⟨place, hl, hf, -⟩ := readFile_eq_ok_iff.mp hb
  cases hp : disk.denies .write place with
  | false =>
    have hd : disk.lookup? place ≠ some .directory := by simp [hf]
    exact Or.inl fun bytes => ⟨_, writeFile_eq_ok_iff.mpr ⟨place, hl, hd, hp, rfl⟩⟩
  | true =>
    refine Or.inr fun bytes => ?_
    simp [writeFile, hl, hf, hp, bind, Except.bind]

end GatherBoard.Disk
