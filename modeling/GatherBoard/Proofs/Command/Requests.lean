import GatherBoard.Command.Run
import GatherBoard.Proofs.Command.Calls
import GatherBoard.Proofs.Outcome
import Mathlib.Data.List.Basic

/-!
# What words ask for

The words before the name of a command are the program's own, and those after it the
command's. On the console that the program has by default a task is asked for by the
name of its command, and a board is written only if the option for it comes after the
name.
-/

namespace GatherBoard.Command

variable {switches : List Switch} {mixed : Bool} {args : List Text} {s : Scan}
  {fault? : Text → Option UsageError} {task : Task}

/-- An option without a joined value is its own name. -/
theorem eq_of_splitOption {arg name : Text} (h : splitOption arg = (name, none)) : arg = name := by
  unfold splitOption at h
  split at h <;> cases h
  rfl

/-- An option that is put in front is one of them. -/
theorem Scan.has_addOption (given : Text) (value : Option Text) (s : Scan) (name : Text) :
    (s.addOption given value).has name = (given == name || s.has name) := rfl

/-- An option that takes no value is found among words only if it is one of them. -/
theorem mem_of_has {name : Text} (hs : scan switches mixed args = .ok s)
    (hn : s.has name = true)
    (hf : ∀ switch ∈ switches, switch.name = name → switch.takesValue = false) : name ∈ args := by
  -- what is found under this name takes no value
  have hflag {given : Text} {switch : Switch} (hg : (given == name) = true)
      (hfound : (switches.find? fun switch => switch.name == given) = some switch) :
      switch.takesValue = false := by
    have hname := List.find?_some hfound
    exact hf switch (List.mem_of_find?_eq_some hfound) ((eq_of_beq hname).trans (eq_of_beq hg))
  fun_induction scan switches mixed args generalizing s with
  | case1 | case2 | case9 =>
    cases hs
    cases hn
  | case3 | case4 | case5 => cases hs
  | case6 arg he ho given switch hfound htakes value rest hsplit ih =>
    obtain ⟨more, hmore, rfl⟩ := map_eq_ok_iff.mp hs
    rw [Scan.has_addOption, Bool.or_eq_true] at hn
    rcases hn with hgiven | hn
    · rw [hflag hgiven hfound] at htakes
      cases htakes
    · exact List.mem_cons_of_mem _ (List.mem_cons_of_mem _ (ih hmore hn))
  | case7 arg rest he ho given switch hfound value? hjoined hneeds hsplit ih =>
    obtain ⟨more, hmore, rfl⟩ := map_eq_ok_iff.mp hs
    rw [Scan.has_addOption, Bool.or_eq_true] at hn
    rcases hn with hgiven | hn
    · cases value? with
      | some value => exact absurd rfl (hjoined value (hflag hgiven hfound))
      | none =>
        rw [eq_of_splitOption hsplit, ← eq_of_beq hgiven]
        exact List.mem_cons_self
    · exact List.mem_cons_of_mem _ (ih hmore hn)
  | case8 arg rest he ho hmixed ih =>
    obtain ⟨more, hmore, rfl⟩ := map_eq_ok_iff.mp hs
    exact List.mem_cons_of_mem _ (ih hmore hn)

/-- The words after the program's own options end its arguments. -/
theorem words_suffix_of_scan (hs : scan switches false args = .ok s) : s.words <:+ args := by
  generalize hm : false = mixed at hs
  fun_induction scan switches mixed args generalizing s with
  | case1 | case9 =>
    cases hs
    exact List.suffix_refl _
  | case2 rest =>
    cases hs
    exact List.suffix_cons _ _
  | case3 | case4 | case5 => cases hs
  | case6 arg he ho given switch hfound htakes value rest hsplit ih =>
    obtain ⟨more, hmore, rfl⟩ := map_eq_ok_iff.mp hs
    exact (ih hmore).trans ((List.suffix_cons _ _).trans (List.suffix_cons _ _))
  | case7 arg rest he ho given switch hfound value? hjoined hneeds hsplit ih =>
    obtain ⟨more, hmore, rfl⟩ := map_eq_ok_iff.mp hs
    exact (ih hmore).trans (List.suffix_cons _ _)
  | case8 arg rest he ho hmixed ih =>
    rw [← hm] at hmixed
    cases hmixed

/-- The task of a command is the one that its own arguments spell. -/
theorem Verb.exists_of_request_eq_task {verb : Verb}
    (h : verb.request fault? args = .task task) :
    ∃ s path today, scan (switchesOf (some verb)) true args = .ok s ∧
      task = verb.task s path today := by
  unfold Verb.request at h
  cases hs : scan (switchesOf (some verb)) true args with
  | error cause =>
    rw [hs] at h
    cases h
  | ok s =>
    simp only [hs] at h
    -- a request for help, a day that is none, no path, a faulty path and more words are no tasks
    repeat' split at h
    all_goals cases h
    exact ⟨s, _, _, rfl, rfl⟩

/-- The program's own options ask for no task. -/
theorem ownRequest?_ne_task (s : Scan) (task : Task) : ownRequest? s ≠ some (.task task) := by
  unfold ownRequest?
  split
  · nofun
  · split <;> nofun

/-- Neither does a word that names no command. -/
theorem unknownCommand_ne_task (word : Text) (words : List Text) (task : Task) :
    unknownCommand word words ≠ .task task := by
  unfold unknownCommand
  dsimp only
  split
  · split
    · nofun
    · next s _ =>
      cases hr : ownRequest? s with
      | none => nofun
      | some request =>
        rintro rfl
        exact ownRequest?_ne_task s task hr
  · nofun

/-- A task is asked for by the name of its command and the arguments after it. -/
theorem Request.exists_of_read_eq_task (h : Request.read fault? args = .task task) :
    ∃ verb front back, args = front ++ Verb.label verb :: back ∧
      verb.request fault? back = .task task := by
  unfold Request.read at h
  split at h
  · cases h
  · cases hs : scan (switchesOf none) false args with
    | error cause =>
      rw [hs] at h
      cases h
    | ok s =>
      obtain ⟨front, hfront⟩ := words_suffix_of_scan hs
      simp only [hs] at h
      split at h
      · next request hown => exact absurd (h ▸ hown) (ownRequest?_ne_task s task)
      · cases h
      · next word rest _ hwords =>
        split at h
        · next verb hfound =>
          have hlabel := List.find?_some hfound
          rw [hwords, ← eq_of_beq hlabel] at hfront
          exact ⟨verb, front, rest, hfront.symm, h⟩
        · exact absurd h (unknownCommand_ne_task _ _ task)

/-- On the console that the program has by default, a call that asks to sort a board and write
it has the name of the command among its words, and after it the option to write. -/
theorem Call.exists_words_of_asks {call : Call} {disk : Disk} {path : Text} {today : Option Date}
    {json debug : Bool} (h : call.Asks .standard disk (.sort path today true json debug)) :
    ∃ front back, call.args = front ++ Verb.sort.label :: back ∧ writeName ∈ back := by
  have hread : Request.read (pathFault? disk) call.args =
      .task (.sort path today true json debug) := by
    change (Request.read (pathFault? disk) call.args).reply = _ at h
    unfold Request.reply at h
    split at h <;> cases h
    assumption
  obtain ⟨verb, front, back, hargs, hrequest⟩ := Request.exists_of_read_eq_task hread
  obtain ⟨s, path', today', hs, htask⟩ := Verb.exists_of_request_eq_task hrequest
  cases verb with
  | facts => cases htask
  | rules => cases htask
  | sort =>
    have hw : s.has writeName = true := by
      rw [Verb.task, Task.sort.injEq] at htask
      exact htask.2.2.1.symm
    exact ⟨front, back, hargs, mem_of_has hs hw (by decide)⟩

end GatherBoard.Command
