import GatherBoard.Proofs.Disk.Rewriting
import GatherBoard.Workflow

/-!
# What loading a file comes to

A board is loaded from a file that holds a text. A path without a file, and one with a
directory or a file that may not be read, is a board file error, but bytes that are no
text and a path that the disk refuses are failures of another kind. Settings are loaded
likewise, where a path without a file does no harm and what cannot be read does.
-/

namespace GatherBoard

/-- Bytes are read as a text exactly if they write it. -/
theorem Text.decode_eq_ok_iff {bytes : ByteArray} {t : Text} :
    decode bytes = .ok t ↔ bytes = encode t := by
  constructor
  · intro h
    by_cases hv : bytes.IsValidUTF8
    · -- the string that is read has the bytes for its representation
      have hread : String.fromUTF8? bytes = some ⟨bytes, hv⟩ := dif_pos hv
      rw [decode, hread, Except.ok.injEq] at h
      rw [encode, ← h, String.ofList_toList]
      rfl
    · have hread : String.fromUTF8? bytes = none := dif_neg hv
      rw [decode, hread] at h
      cases h
  · rintro rfl
    exact decode_encode t

/-- Is a failure one of the board file? -/
def Failure.isBoardFile : Failure → Bool
  | .boardFile _ => true
  | _ => false

/-- The disk refuses a path: it is too long, or a directory on the way may not be
searched. -/
def Disk.Refuses (disk : Disk) (p : Path) : Prop :=
  disk.find p = .error .nameTooLong ∨ disk.find p = .error .denied

/-- The file of a path has bytes that write no text. -/
def Disk.HasNoText (disk : Disk) (p : Path) : Prop :=
  ∃ bytes, disk.readFile p = .ok bytes ∧ ∀ t, bytes ≠ Text.encode t

/-- What keeps a board from being loaded, and is no board file error: a path that the disk
refuses, and a file with bytes that write no text. -/
def Disk.BreaksLoad (disk : Disk) (p : Path) : Prop := disk.Refuses p ∨ disk.HasNoText p

/-- What keeps settings from being loaded: the same, and what is there and cannot be read. -/
def Disk.BreaksSettings (disk : Disk) (p : Path) : Prop :=
  disk.BreaksLoad p ∨ (∃ entry, disk.find p = .ok entry) ∧ ¬ disk.IsReadable p

/-- A workflow has the board file that it needs: one that can be read and, if it writes,
written. -/
def Disk.Serves (disk : Disk) (p : Path) (write : Bool) : Prop :=
  disk.IsReadable p ∧ (write = true → disk.IsWritable p)

/-- A board file error says what is the case with the file of a path. -/
inductive BoardFileError.IsTrueOf (disk : Disk) (p : Path) : BoardFileError → Prop where
  | notFound (missing : disk.holds p = .ok false) : IsTrueOf disk p (.notFound p)
  | unreadable (e : DiskError) (found : disk.holds p = .ok true)
      (refused : disk.readFile p = .error e) : IsTrueOf disk p (.unreadable p e)
  | unwritable (e : DiskError) (readable : disk.IsReadable p)
      (refused : ∀ bytes, disk.writeFile p bytes = .error e) : IsTrueOf disk p (.unwritable p e)

/-- What a workflow on a board file comes to: it succeeds with the file that it needs, or
says what is wrong with the file, or it is broken, which it is under this condition only. -/
inductive ComesTo {α : Type} (disk : Disk) (p : Path) (write : Bool) (breaks : Prop)
    (result : Except Failure α) : Prop where
  | done (a : α) (eq : result = .ok a) (served : disk.Serves p write) (sound : ¬ breaks)
  | reported (cause : BoardFileError) (eq : result = .error (.boardFile cause))
      (truthful : cause.IsTrueOf disk p) (unserved : ¬ disk.Serves p write) (sound : ¬ breaks)
  | broken (failure : Failure) (eq : result = .error failure)
      (other : failure.isBoardFile = false) (broken : breaks)

namespace Disk

variable {disk : Disk} {p : Path}

/-- Any file that can be read will do where nothing is written. -/
theorem serves_false_iff : disk.Serves p false ↔ disk.IsReadable p :=
  and_iff_left nofun

/-- What is not there cannot be read. -/
theorem readFile_of_find_error {e : DiskError} (h : disk.find p = .error e) :
    disk.readFile p = .error e := by
  unfold find at h
  unfold readFile
  cases hl : disk.locate p with
  | error e' => simpa [hl, bind, Except.bind] using h
  | ok place =>
    simp only [hl, bind, Except.bind] at h ⊢
    cases hf : disk.lookup? place with
    | none => simpa [hf] using h
    | some entry => simp [hf, pure, Except.pure] at h

/-- Reading fails for want of bytes. -/
theorem not_isReadable {e : DiskError} (h : disk.readFile p = .error e) : ¬ disk.IsReadable p := by
  rintro ⟨bytes, hb⟩
  rw [h] at hb
  cases hb

/-- What is found missing cannot be read. -/
theorem not_isReadable_of_holds (h : disk.holds p = .ok false) : ¬ disk.IsReadable p := by
  rintro ⟨bytes, hb⟩
  rw [holds_of_find (find_of_readFile hb)] at h
  cases h

/-- What a path leads to, as far as loading can tell. -/
inductive Leads (disk : Disk) (p : Path) : Prop where
  | text (t : Text) (file : disk.readFile p = .ok (Text.encode t))
  | noText (bytes : ByteArray) (fault : Text.ByteFault) (file : disk.readFile p = .ok bytes)
      (undecodable : Text.decode bytes = .error fault)
  | unreadable (entry : Entry) (e : DiskError) (found : disk.find p = .ok entry)
      (unread : disk.readFile p = .error e)
  | nothing (e : DiskError) (missing : disk.find p = .error e) (accepted : ¬ disk.Refuses p)
  | refused (refuses : disk.Refuses p)

/-- Every path leads to one of these. -/
theorem leads (disk : Disk) (p : Path) : disk.Leads p := by
  by_cases hr : disk.Refuses p
  · exact .refused hr
  · cases hf : disk.find p with
    | error e => exact .nothing e hf hr
    | ok entry =>
      cases hb : disk.readFile p with
      | error e => exact .unreadable entry e hf hb
      | ok bytes =>
        cases hd : Text.decode bytes with
        | ok t => exact .text t (Text.decode_eq_ok_iff.mp hd ▸ hb)
        | error fault => exact .noText bytes fault hb hd

/-- The disk does not refuse a path that leads to something. -/
theorem not_refuses_of_find {entry : Entry} (h : disk.find p = .ok entry) : ¬ disk.Refuses p := by
  simp [Refuses, h]

/-- A file that holds a text breaks no loading. -/
theorem not_breaksLoad_of_text {t : Text} (h : disk.readFile p = .ok (Text.encode t)) :
    ¬ disk.BreaksLoad p := by
  rintro (hr | ⟨bytes, hb, hn⟩)
  · exact not_refuses_of_find (find_of_readFile h) hr
  · rw [h, Except.ok.injEq] at hb
    exact hn t hb.symm

/-- Nor does what cannot be read, unless the disk refuses the path. -/
theorem not_breaksLoad_of_unreadable (hu : ¬ disk.IsReadable p) (hr : ¬ disk.Refuses p) :
    ¬ disk.BreaksLoad p := by
  rintro (hr' | ⟨bytes, hb, -⟩)
  · exact hr hr'
  · exact hu ⟨bytes, hb⟩

/-- Bytes that are not decoded break it. -/
theorem breaksLoad_of_decode {bytes : ByteArray} {fault : Text.ByteFault}
    (h : disk.readFile p = .ok bytes) (hd : Text.decode bytes = .error fault) :
    disk.BreaksLoad p := by
  refine Or.inr ⟨bytes, h, fun t ht => ?_⟩
  rw [ht, Text.decode_encode] at hd
  cases hd

/-- Where nothing is, there is nothing to load. -/
theorem holds_of_missing {e : DiskError} (h : disk.find p = .error e) (hr : ¬ disk.Refuses p) :
    disk.holds p = .ok false := by
  rw [holds, h]
  cases e with
  | nameTooLong => exact absurd (Or.inl h) hr
  | denied => exact absurd (Or.inr h) hr
  | _ => rfl

/-- A path that is refused has no answer. -/
theorem holds_of_refuses (h : disk.Refuses p) : ∃ e, disk.holds p = .error e := by
  rcases h with h | h <;> exact ⟨_, by rw [holds, h]⟩

/-- Loading a board gives the board of a text, or a board file error if nothing can be
read, or else is broken. -/
theorem loadBoard_comesTo (disk : Disk) (p : Path) :
    ComesTo disk p false (disk.BreaksLoad p) (disk.loadBoard p) := by
  cases disk.leads p with
  | text t h =>
    exact .done _ (loadBoard_of_readFile h (Text.decode_encode t)) (serves_false_iff.mpr ⟨_, h⟩)
      (not_breaksLoad_of_text h)
  | noText bytes fault h hd =>
    have hf : disk.loadBoard p = .error (.undecodable fault) := by
      simp [loadBoard, holds_of_find (find_of_readFile h), h, hd, bind, Except.bind,
        Except.mapError]
    exact .broken _ hf rfl (breaksLoad_of_decode h hd)
  | unreadable entry e h hu =>
    have hr : ¬ disk.IsReadable p := not_isReadable hu
    have hf : disk.loadBoard p = .error (.boardFile (.unreadable p e)) := by
      simp [loadBoard, holds_of_find h, hu, bind, Except.bind, Except.mapError]
    exact .reported _ hf (.unreadable e (holds_of_find h) hu) (mt serves_false_iff.mp hr)
      (not_breaksLoad_of_unreadable hr (not_refuses_of_find h))
  | nothing e h ha =>
    have hr : ¬ disk.IsReadable p := not_isReadable (readFile_of_find_error h)
    have hf : disk.loadBoard p = .error (.boardFile (.notFound p)) := by
      simp [loadBoard, holds_of_missing h ha, bind, Except.bind, Except.mapError]
    exact .reported _ hf (.notFound (holds_of_missing h ha)) (mt serves_false_iff.mp hr)
      (not_breaksLoad_of_unreadable hr ha)
  | refused h =>
    obtain ⟨e, he⟩ := holds_of_refuses h
    have hf : disk.loadBoard p = .error (.refused p e) := by
      simp [loadBoard, he, bind, Except.bind, Except.mapError]
    exact .broken _ hf rfl (Or.inl h)

/-- Settings are loaded unless a path that is refused, something that cannot be read or
bytes that write no text are in the way, and no failure to load them is a board file
error. -/
theorem loadSettings_cases (disk : Disk) (p : Path) :
    (¬ disk.BreaksSettings p ∧ ∃ settings, (disk.loadSettings p).result = .ok settings) ∨
      disk.BreaksSettings p ∧ ∃ failure, (disk.loadSettings p).result = .error failure ∧
        failure.isBoardFile = false := by
  unfold loadSettings settingsText?
  cases disk.leads p with
  | text t h =>
    have hn : ¬ disk.BreaksSettings p := by
      rintro (hb | ⟨-, hu⟩)
      · exact not_breaksLoad_of_text h hb
      · exact hu ⟨_, h⟩
    rw [holds_of_find (find_of_readFile h), h]
    simp only [bind, Except.bind, Except.mapError, Text.decode_encode]
    exact Or.inl ⟨hn, _, rfl⟩
  | noText bytes fault h hd =>
    rw [holds_of_find (find_of_readFile h), h]
    simp only [bind, Except.bind, Except.mapError, hd]
    exact Or.inr ⟨Or.inl (breaksLoad_of_decode h hd), _, rfl, rfl⟩
  | unreadable entry e h hu =>
    rw [holds_of_find h, hu]
    exact Or.inr ⟨Or.inr ⟨⟨entry, h⟩, not_isReadable hu⟩, _, rfl, rfl⟩
  | nothing e h ha =>
    have hn : ¬ disk.BreaksSettings p := by
      rintro (hb | ⟨⟨entry, hf⟩, -⟩)
      · exact not_breaksLoad_of_unreadable (not_isReadable (readFile_of_find_error h)) ha hb
      · rw [h] at hf
        cases hf
    rw [holds_of_missing h ha]
    exact Or.inl ⟨hn, _, rfl⟩
  | refused h =>
    obtain ⟨e, he⟩ := holds_of_refuses h
    rw [he]
    exact Or.inr ⟨Or.inl (Or.inl h), _, rfl, rfl⟩

/-- No more than one board file error is true of a file. -/
theorem isTrueOf_unique {cause other : BoardFileError} (h : cause.IsTrueOf disk p)
    (ho : other.IsTrueOf disk p) : cause = other := by
  cases h with
  | notFound missing =>
    cases ho with
    | notFound => rfl
    | unreadable e found refused =>
      rw [missing] at found
      cases found
    | unwritable e readable refused => exact absurd readable (not_isReadable_of_holds missing)
  | unreadable e found refused =>
    cases ho with
    | notFound missing =>
      rw [missing] at found
      cases found
    | unreadable e' found' refused' =>
      rw [refused, Except.error.injEq] at refused'
      rw [refused']
    | unwritable e' readable refused' => exact absurd readable (not_isReadable refused)
  | unwritable e readable refused =>
    cases ho with
    | notFound missing => exact absurd readable (not_isReadable_of_holds missing)
    | unreadable e' found refused' => exact absurd readable (not_isReadable refused')
    | unwritable e' readable' refused' =>
      have he := (refused .empty).symm.trans (refused' .empty)
      rw [Except.error.injEq] at he
      rw [he]

/-- What is loaded is not broken. -/
theorem not_breaksSettings_of_loaded {settings : Settings}
    (h : (disk.loadSettings p).result = .ok settings) : ¬ disk.BreaksSettings p := by
  rcases disk.loadSettings_cases p with ⟨hn, -⟩ | ⟨-, failure, hf, -⟩
  · exact hn
  · rw [hf] at h
    cases h

end Disk

end GatherBoard
