import GatherBoard.Proofs.Settings.Assignments
import GatherBoard.Proofs.Text.LineBreaks
import GatherBoard.Proofs.Workflow.Resorting

/-!
# The last valid assignment of each key

The settings that a file states are, key by key, those of the last valid assignment in it, or
the default where there is none. Every invalid assignment is reported, in the order of the
lines, and lines that say nothing can be left out. So a text after a break is read on top of
the text before it.
-/

namespace GatherBoard

open Text

namespace Settings

/-- What the lines of a text mean, but for those that say nothing. -/
def statements (t : Text) : List Meaning :=
  ((settingLines t).map Meaning.ofLine).filter (· ≠ .nothing)

/-- What says nothing is not missed when lines are assigned in turn. -/
theorem foldl_statements (base : Settings) (t : Text) :
    (statements t).foldl assign base = assignAll base (settingLines t) := by
  have hassign : (fun s m => if decide (m ≠ .nothing) = true then assign s m else s) = assign := by
    funext s m
    cases m <;> rfl
  rw [statements, List.foldl_filter, hassign, assignAll]

/-- Nor is it missed among the events. -/
theorem filterMap_statements (t : Text) :
    (statements t).filterMap Meaning.event? = (read t).2 := by
  have hevent : (fun m => if decide (m ≠ .nothing) = true then Meaning.event? m else none) =
      Meaning.event? := by
    funext m
    cases m <;> rfl
  rw [statements, List.filterMap_filter, hevent]
  rfl

/-- Settings and events are made of statements. -/
theorem read_eq (t : Text) :
    read t = ((statements t).foldl assign default, (statements t).filterMap Meaning.event?) := by
  rw [foldl_statements, filterMap_statements]
  rfl

/-- An empty line says nothing. -/
theorem ofLine_nil : Meaning.ofLine [] = .nothing := rfl

/-- A text with a break in it means what both of its sides mean. -/
theorem statements_append (A B : Text) :
    statements (A ++ '\n' :: B) = statements A ++ statements B := by
  have hbreak : unifyBreaks ('\n' :: B) = '\n' :: unifyBreaks B := by
    rw [unifyBreaks.eq_3 _ _ (by simp), if_neg (by decide)]
  by_cases hr : A.getLast? = some '\r'
  · -- the carriage return and the break are one ending, and an empty line is lost
    obtain ⟨first, rfl⟩ := List.getLast?_eq_some_iff.mp hr
    have hfirst : ∀ t : Text, unifyBreaks (first ++ '\r' :: t) =
        unifyBreaks first ++ unifyBreaks ('\r' :: t) := fun t => unifyBreaks_append (by simp)
    have hlines : settingLines (first ++ ['\r'] ++ '\n' :: B) =
        (unifyBreaks first).splitOnP endsLine ++ settingLines B := by
      rw [settingLines, List.append_assoc, List.singleton_append, hfirst, unifyBreaks,
        List.splitOnP_append_cons _ _ (by decide), settingLines]
    have hends : settingLines (first ++ ['\r']) =
        (unifyBreaks first).splitOnP endsLine ++ [[]] := by
      rw [settingLines, hfirst, unifyBreaks.eq_3 _ _ (by simp), if_pos rfl,
        List.splitOnP_append_cons _ _ (by decide)]
      rfl
    simp only [statements, hlines, hends, List.map_append, List.filter_append]
    simp [ofLine_nil]
  · have hlines : settingLines (A ++ '\n' :: B) = settingLines A ++ settingLines B := by
      rw [settingLines, unifyBreaks_append (fun h => absurd h hr), hbreak,
        List.splitOnP_append_cons _ _ (by decide), settingLines, settingLines]
    simp only [statements, hlines, List.map_append, List.filter_append]

/-- A text of silent lines means nothing. -/
theorem statements_of_isSilent {t : Text} (h : ∀ line ∈ settingLines t, IsSilent line) :
    statements t = [] := by
  rw [statements, List.filter_eq_nil_iff]
  intro m hm
  obtain ⟨line, hline, rfl⟩ := List.mem_map.mp hm
  have he := means_iff.mp (isSilent_iff.mp (h line hline))
  simp [he]

/-- After a break a second text is read on top of the first. -/
theorem read_append (A B : Text) : read (A ++ '\n' :: B) =
    (assignAll (read A).1 (settingLines B), (read A).2 ++ (read B).2) := by
  have hfirst : (read A).1 = (statements A).foldl assign default := by rw [foldl_statements]; rfl
  rw [read_eq, statements_append, List.foldl_append, List.filterMap_append, ← hfirst,
    foldl_statements, filterMap_statements, filterMap_statements]

/-- A quoted value is read from the line that it stands in, whatever follows. -/
theorem exists_quoted_line {k v : Text} {mark : Char} (hk : '=' ∉ k) (hc : ¬ BeginsWith k '#')
    (hm : IsQuote mark) (hv : mark ∉ v) (hline : ∀ c ∈ k ++ v, endsLine c = false) (rest : Text) :
    ∃ line more, settingLines (k ++ " = ".toList ++ mark :: (v ++ mark :: rest)) = line :: more ∧
      Assigns line (lower (trim k)) v := by
  have hmark : endsLine mark = false := by obtain rfl | rfl := hm <;> decide
  have hsign : ∀ c ∈ " = ".toList, endsLine c = false := by
    have hall : " = ".toList.all (fun c => !endsLine c) = true := by decide
    intro c hc
    simpa using List.all_eq_true.mp hall c hc
  rw [List.forall_mem_append] at hline
  have hs : ∀ c ∈ k ++ " = ".toList ++ mark :: (v ++ [mark]), endsLine c = false := by
    rw [List.forall_mem_append, List.forall_mem_append, List.forall_mem_cons,
      List.forall_mem_append, List.forall_mem_singleton]
    exact ⟨⟨hline.1, hsign⟩, hmark, hline.2, hmark⟩
  have hcr : '\r' ∉ k ++ " = ".toList ++ mark :: (v ++ [mark]) :=
    fun h => absurd (hs _ h) (by decide)
  obtain ⟨first, more, hsplit⟩ := exists_splitOnP_append hs (unifyBreaks rest)
  have hcut : settingLines (k ++ " = ".toList ++ mark :: (v ++ mark :: rest)) =
      (k ++ " = ".toList ++ mark :: (v ++ [mark]) ++ first) :: more := by
    have ht : k ++ " = ".toList ++ mark :: (v ++ mark :: rest) =
        k ++ " = ".toList ++ mark :: (v ++ [mark]) ++ rest := by simp
    rw [settingLines, ht, unifyBreaks_append fun h => absurd (List.mem_of_getLast? h) hcr,
      unifyBreaks_eq_self hcr, hsplit]
  have hblank : AllBlank [' '] := allBlank_cons.mpr ⟨by decide, allBlank_nil⟩
  have htrim : trim (k ++ [' ']) = trim k := trim_append_of_allBlank k hblank
  have hfirst : '=' ∉ k ++ [' '] := by simp [hk]
  have hc' : ¬ BeginsWith (k ++ [' ']) '#' := by rwa [beginsWith_iff, htrim, ← beginsWith_iff]
  have hline : k ++ " = ".toList ++ mark :: (v ++ [mark]) ++ first =
      (k ++ [' ']) ++ '=' :: ([' '] ++ mark :: (v ++ mark :: first)) := by simp
  refine ⟨_, more, hcut, ?_⟩
  rw [hline, ← htrim]
  exact .intro hfirst hc' (.quoted hblank hm hv)

/-- A value without quote marks ends before the first number sign and is trimmed. -/
theorem assigns_unquoted {k w : Text} (hk : '=' ∉ k) (hc : ¬ BeginsWith k '#')
    (hw : ∀ mark, BeginsWith w mark → ¬ IsQuote mark) :
    Assigns (k ++ '=' :: w) (lower (trim k)) (trim (w.takeWhile (· != '#'))) := by
  by_cases hm : '#' ∈ w
  · obtain ⟨v, rest, rfl, hv⟩ := List.eq_append_cons_of_mem hm
    rw [takeWhile_append_cons hv]
    exact .intro hk hc (.commented (fun mark hb => hw mark (hb.append _)) hv)
  · rw [List.takeWhile_eq_self_iff.mpr (bne_of_not_mem hm)]
    exact .intro hk hc (.plain hw hm)

end Settings

/-- A file that holds a text states the settings of this text. -/
theorem Disk.loadSettings_of_readFile {disk : Disk} {p : Path} {t : Text}
    (h : disk.readFile p = .ok (encode t)) :
    disk.loadSettings p = ⟨(Settings.read t).2, .ok (Settings.read t).1⟩ := by
  simp [loadSettings, settingsText?, Disk.holds_of_find (find_of_readFile h), h, decode_encode,
    Except.mapError, bind, Except.bind, pure, Except.pure]

namespace Settings

/-- The events of settings are warnings of their own log. -/
theorem event_of_mem_read {t : Text} {e : Event} (h : e ∈ (read t).2) :
    e.level = .warning ∧ e.source = "kanbansort.config".toList := by
  obtain ⟨m, hm, he⟩ := List.mem_filterMap.mp h
  obtain ⟨line, -, rfl⟩ := List.mem_map.mp hm
  have hmeans := event?_ofLine_eq_some_iff.mp he
  cases hmeans <;> exact ⟨rfl, rfl⟩

/-- Settings are the last valid assignment of each key. A file that holds a text is loaded as
what the text says. In its settings every field has what the last line with a valid assignment
of its key says, or else the default; its events are those of the invalid assignments, one for
each and in the order of the lines. Tag source and log level always have one of their names. A
text after a break overrides the settings of the text before it and adds its own events, and
silent lines can be left out anywhere. A quoted value is what stands between its marks,
whatever follows them, and any other value ends before the first number sign. -/
theorem read_last_valid :
    (∀ {disk : Disk} {p : Path} {t : Text}, disk.readFile p = .ok (encode t) →
      disk.loadSettings p = ⟨(read t).2, .ok (read t).1⟩) ∧
    (∀ t : Text, (∀ s, (read t).1 = s ↔ Overrides default (settingLines t) s) ∧
      (∀ es, (read t).2 = es ↔ Reports (settingLines t) es) ∧
      (∀ e ∈ (read t).2, e.level = .warning ∧ e.source = "kanbansort.config".toList) ∧
      (read t).1.tagSource.label ∈ ["title".toList, "title+description".toList] ∧
      (read t).1.logLevel.label ∈ ["DEBUG".toList, "INFO".toList, "WARNING".toList,
        "ERROR".toList, "CRITICAL".toList]) ∧
    (∀ A B : Text, Overrides (read A).1 (settingLines B) (read (A ++ '\n' :: B)).1 ∧
      (read (A ++ '\n' :: B)).2 = (read A).2 ++ (read B).2) ∧
    (∀ A l B : Text, (∀ line ∈ settingLines l, IsSilent line) →
      read (A ++ '\n' :: (l ++ '\n' :: B)) = read (A ++ '\n' :: B) ∧
        read (l ++ '\n' :: B) = read B ∧ read (A ++ '\n' :: l) = read A) ∧
    (∀ (k v : Text) (mark : Char), '=' ∉ k → ¬ BeginsWith k '#' → IsQuote mark → mark ∉ v →
      (∀ c ∈ k ++ v, endsLine c = false) → ∀ rest : Text, ∃ line more,
        settingLines (k ++ " = ".toList ++ mark :: (v ++ mark :: rest)) = line :: more ∧
          Assigns line (lower (trim k)) v) ∧
    ∀ k w : Text, '=' ∉ k → ¬ BeginsWith k '#' → (∀ mark, BeginsWith w mark → ¬ IsQuote mark) →
      Assigns (k ++ '=' :: w) (lower (trim k)) (trim (w.takeWhile (· != '#'))) := by
  refine ⟨fun h => Disk.loadSettings_of_readFile h, fun t => ⟨fun s => ?_, fun es => ?_,
    fun e he => event_of_mem_read he, ?_, ?_⟩, fun A B => ?_, fun A l B hl => ?_,
    fun k v mark hk hc hm hv hline rest => exists_quoted_line hk hc hm hv hline rest,
    fun k w hk hc hw => assigns_unquoted hk hc hw⟩
  · exact overrides_iff.symm
  · exact reports_iff.symm
  · cases (read t).1.tagSource <;> decide
  · cases (read t).1.logLevel <;> decide
  · rw [read_append]
    exact ⟨overrides_iff.mpr rfl, rfl⟩
  · have hn := statements_of_isSilent hl
    rw [read_eq, read_eq (A ++ '\n' :: B), read_eq (l ++ '\n' :: B), read_eq B,
      read_eq (A ++ '\n' :: l), read_eq A]
    simp only [statements_append, hn, List.nil_append, List.append_nil, and_self]

/-- Settings with one valid and one invalid assignment, and a comment. -/
def firstSettings : Text := "TAG_SOURCE = \"title\" # short\rlog_level = loud\n# quiet\r".toList

/-- More settings, with an open quote, a dotless letter and an invalid value in quotes. -/
def moreSettings : Text :=
  "Log_Level='ınfo \n\napply_column_order = OFF#\ntag_source = ' title' title".toList

/-- A disk with both in one file. -/
def settingsDisk : Disk :=
  Disk.empty.set callPath.names (some (.file (encode (firstSettings ++ '\n' :: moreSettings))))

/-- The file is loaded with three settings and two events. -/
theorem settingsDisk_last_valid :
    settingsDisk.readFile callPath = .ok (encode (firstSettings ++ '\n' :: moreSettings)) ∧
      settingsDisk.loadSettings callPath = ⟨[.badLogLevel "loud".toList, .badTagSource " title".toList],
        .ok ⟨.title, false, .info⟩⟩ ∧
      Overrides ⟨.title, true, .warning⟩ (settingLines moreSettings) ⟨.title, false, .info⟩ := by
  have hf : settingsDisk.readFile callPath = .ok (encode (firstSettings ++ '\n' :: moreSettings)) :=
    (readFile_callPath _).1
  have hread : read (firstSettings ++ '\n' :: moreSettings) = (⟨.title, false, .info⟩,
      [.badLogLevel "loud".toList, .badTagSource " title".toList]) := by decide +kernel
  have hfirst : (read firstSettings).1 = ⟨.title, true, .warning⟩ := by decide +kernel
  have hl := read_last_valid.1 hf
  have ho := (read_last_valid.2.2.1 firstSettings moreSettings).1
  rw [hread] at hl ho
  rw [hfirst] at ho
  exact ⟨hf, hl, ho⟩

end Settings

end GatherBoard
