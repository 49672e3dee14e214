import GatherBoard.Proofs.Command.Requests
import Mathlib.Data.List.Induction

/-!
# What calls do to the disk

On any console, the only call that changes the disk is one to sort a board and write
it, and only if it succeeds: then the file of the board holds the sorted board, and
all else is as before. So after any calls a place holds what it held at first, or what
the last call that saved a board there has written. No file is ever created.
-/

namespace GatherBoard.Command

open Markdown

/-- A board that is sorted and saved: what is found, planned and left. -/
structure Saving where
  /-- The path of the board, as it is given. -/
  path : Text
  /-- The day that is sorted by. -/
  today : Date
  /-- Is the plan reported in JSON? -/
  json : Bool
  /-- The settings that hold. -/
  settings : Settings
  /-- The path of the board file, with a home directory in place of a tilde in front. -/
  boardPath : Path
  /-- Where this path leads. -/
  place : Place
  /-- The bytes that are found there. -/
  bytes : ByteArray
  /-- The text that they spell. -/
  text : Text
  /-- The plan for the board of this text. -/
  plan : Plan
  /-- The board after the plan. -/
  sorted : Board

namespace Saving

/-- The file that is left. -/
def file (s : Saving) : Entry := .file (Text.encode (write s.sorted))

/-- The board is saved by a call, on the disk that the call finds. -/
structure MadeBy (s : Saving) (console : Console) (call : Call) (disk : Disk) : Prop where
  asked : ∃ today debug, call.Asks console disk (.sort s.path today true s.json debug) ∧
    today.getD call.today = s.today
  loaded : (disk.loadSettings call.settingsPath).result = .ok s.settings
  named : call.boardPath? s.path = some s.boardPath
  located : disk.locate s.boardPath = .ok s.place
  found : disk.lookup? s.place = some (.file s.bytes)
  decoded : Text.decode s.bytes = .ok s.text
  sorts : (read s.text).board.sort s.today s.settings.tagSource = .ok s.plan
  applies : (read s.text).board.apply s.plan s.settings.tagSource s.settings.applyColumnOrder =
    .ok s.sorted
  exitCode : (call.run console disk).exitCode = 0
  reports : (call.run console disk).stdout =
    printLines console.print (reportLines s.today true s.json s.sorted s.plan)

end Saving

/-- A call saves if it is one to sort a board and write it, and succeeds. -/
def Call.Saves (call : Call) (console : Console) (disk : Disk) : Prop :=
  (∃ path today json debug, call.Asks console disk (.sort path today true json debug)) ∧
    (call.run console disk).exitCode = 0

/-- The disk after some calls, each on the disk that the one before has left. -/
def diskAfter (console : Console) (disk : Disk) (calls : List Call) : Disk :=
  calls.foldl (fun disk call => (call.run console disk).disk) disk

/-- The last call finds the disk after those before it. -/
theorem diskAfter_concat (console : Console) (disk : Disk) (calls : List Call) (call : Call) :
    diskAfter console disk (calls ++ [call]) =
      (call.run console (diskAfter console disk calls)).disk := by
  rw [diskAfter, List.foldl_append]
  rfl

namespace Call

variable {console : Console} {call : Call} {disk : Disk} {path : Text} {today : Option Date}
  {json debug : Bool} {settings : Settings} {p : Path} {run : SortRun}

/-- A call to sort a board and write it that ends well has saved it. -/
theorem exists_saving (h : call.Asks console disk (.sort path today true json debug))
    (hc : Completes console (call.environment disk) path (today.getD call.today) true json settings
      p run (call.run console disk)) :
    ∃ s : Saving, s.MadeBy console call disk ∧
      (call.run console disk).disk = disk.set s.place (some s.file) := by
  obtain ⟨reading, hl, hs, ha, hsave⟩ := runSort_eq_ok_iff.mp hc.ran
  obtain ⟨bytes, t, hb, hd, rfl⟩ := Disk.loadBoard_eq_ok_iff.mp hl
  obtain ⟨place, hplace, hf, -⟩ := Disk.readFile_eq_ok_iff.mp hb
  rw [Disk.saveBoard_eq_ok_iff] at hsave
  obtain ⟨place', hplace', -, -, hdisk⟩ := Disk.writeFile_eq_ok_iff.mp hsave
  -- the file is written where it was read
  rw [hplace, Except.ok.injEq] at hplace'
  subst hplace'
  refine ⟨⟨path, today.getD call.today, json, settings, p, place, bytes, t, run.plan, run.board⟩,
    ?_, hc.disk.trans hdisk⟩
  exact ⟨⟨today, debug, h, rfl⟩, hc.loaded, hc.named, hplace, hf, hd, hs, ha, hc.exitCode,
    hc.stdout⟩

/-- A call that saves has saved a board; any other call leaves the disk. -/
theorem disk_cases (console : Console) (call : Call) (disk : Disk) :
    (¬ call.Saves console disk ∧ (call.run console disk).disk = disk) ∨
      (call.Saves console disk ∧ ∃ s : Saving, s.MadeBy console call disk ∧
        (call.run console disk).disk = disk.set s.place (some s.file)) := by
  by_cases h : ∃ path today write json debug,
      call.Asks console disk (.sort path today write json debug)
  · obtain ⟨path, today, write, json, debug, h⟩ := h
    rcases sort_cases h with ⟨he, hd⟩ | ⟨settings, p, run, hc⟩
    · refine Or.inl ⟨fun hs => ?_, hd⟩
      rw [hs.2] at he
      cases he
    · cases write with
      | false =>
        obtain ⟨-, -, -, -, hd⟩ := runSort_dry_eq_ok_iff.mp hc.ran
        refine Or.inl ⟨?_, hc.disk.trans hd⟩
        rintro ⟨⟨path', today', json', debug', h'⟩, -⟩
        rw [Asks, h] at h'
        cases h'
      | true =>
        exact Or.inr ⟨⟨⟨path, today, json, debug, h⟩, hc.exitCode⟩, exists_saving h hc⟩
  · refine Or.inl ⟨fun hs => ?_, disk_of_not_sort (fun path today write json debug hr =>
      h ⟨path, today, write, json, debug, hr⟩)⟩
    obtain ⟨⟨path, today, json, debug, hr⟩, -⟩ := hs
    exact h ⟨path, today, true, json, debug, hr⟩

/-- A call that fails leaves the disk. -/
theorem disk_of_exitCode (h : (call.run console disk).exitCode ≠ 0) :
    (call.run console disk).disk = disk := by
  rcases disk_cases console call disk with ⟨-, hd⟩ | ⟨hs, -⟩
  · exact hd
  · exact absurd hs.2 h

end Call

/-- After some calls a place holds what one of them has saved there, over a file that
was there at first. -/
def SavedAt (console : Console) (disk : Disk) (calls : List Call) (place : Place) : Prop :=
  ∃ before call after, ∃ s : Saving, calls = before ++ call :: after ∧
    s.MadeBy console call (diskAfter console disk before) ∧ s.place = place ∧
    (diskAfter console disk calls).lookup? place = some s.file ∧
    ∃ bytes, disk.lookup? place = some (.file bytes)

section

variable {console : Console} {disk : Disk} {calls : List Call} {call : Call} {place : Place}

/-- A call that leaves a place leaves there what was saved. -/
theorem SavedAt.concat (h : SavedAt console disk calls place)
    (hk : (diskAfter console disk (calls ++ [call])).lookup? place =
      (diskAfter console disk calls).lookup? place) :
    SavedAt console disk (calls ++ [call]) place := by
  obtain ⟨before, earlier, after, s, rfl, hm, hp, hl, hb⟩ := h
  exact ⟨before, earlier, after ++ [call], s, by simp, hm, hp, hk.trans hl, hb⟩

/-- A place holds after some calls what it held at first, or what one of them has
saved there. -/
theorem lookup?_diskAfter (console : Console) (disk : Disk) (calls : List Call) (place : Place) :
    (diskAfter console disk calls).lookup? place = disk.lookup? place ∨
      SavedAt console disk calls place := by
  -- the last call is taken off, since it finds what all the others have left
  induction calls using List.reverseRecOn with
  | nil => exact Or.inl rfl
  | append_singleton calls call ih =>
    have hlast := diskAfter_concat console disk calls call
    rcases Call.disk_cases console call (diskAfter console disk calls) with
      ⟨-, hd⟩ | ⟨-, s, hm, hd⟩
    · have hk := congrArg (Disk.lookup? · place) (hlast.trans hd)
      exact ih.imp hk.trans (SavedAt.concat · hk)
    · rw [hd] at hlast
      by_cases hp : place = s.place
      · subst hp
        have hdir : (diskAfter console disk calls).lookup? s.place ≠ some .directory := by
          rw [hm.found]
          nofun
        -- the file that is saved over was there at first, or an earlier call saved it
        have hb : ∃ bytes, disk.lookup? s.place = some (.file bytes) := by
          rcases ih with hsame | ⟨_, _, _, _, _, _, _, _, hb⟩
          · exact ⟨s.bytes, hsame ▸ hm.found⟩
          · exact hb
        have hl := Disk.lookup?_set_self hdir (some s.file)
        exact Or.inr ⟨calls, call, [], s, rfl, hm, rfl, hlast ▸ hl, hb⟩
      · have hk : (diskAfter console disk (calls ++ [call])).lookup? place =
            (diskAfter console disk calls).lookup? place := by
          rw [hlast, Disk.lookup?_set_of_ne hp]
        exact ih.imp hk.trans (SavedAt.concat · hk)

/-- Only a successful call to sort and write changes the disk, whatever the console. After any
calls, the next one either saves, and then it puts the board after the plan that it reports
where its board was found and changes nothing else, or it leaves the disk, as it does if it
fails. So after all the calls each place holds what it held at first, or what one of them has
saved there over a file. On the console that the program has by default, a call that saves has
the word for sorting, and after it the option to write. -/
theorem disk_changed_by_saving_only (console : Console) (disk : Disk) (calls : List Call) :
    (∀ call : Call,
      (¬ call.Saves console (diskAfter console disk calls) ∧
        (call.run console (diskAfter console disk calls)).disk = diskAfter console disk calls) ∨
      (call.Saves console (diskAfter console disk calls) ∧
        ∃ s : Saving, s.MadeBy console call (diskAfter console disk calls) ∧
          (call.run console (diskAfter console disk calls)).disk =
            (diskAfter console disk calls).set s.place (some s.file))) ∧
    (∀ call : Call, (call.run console (diskAfter console disk calls)).exitCode = 0 ∨
      (call.run console (diskAfter console disk calls)).disk = diskAfter console disk calls) ∧
    (∀ place, (diskAfter console disk calls).lookup? place = disk.lookup? place ∨
      SavedAt console disk calls place) ∧
    ∀ call : Call, call.Saves .standard disk →
      ∃ front back, call.args = front ++ Verb.sort.label :: back ∧ writeName ∈ back :=
  ⟨fun call => Call.disk_cases console call _,
    fun _ => Decidable.or_iff_not_imp_left.mpr Call.disk_of_exitCode,
    lookup?_diskAfter console disk calls,
    fun _ ⟨⟨_, _, _, _, ha⟩, _⟩ => Call.exists_words_of_asks ha⟩

end

end GatherBoard.Command
