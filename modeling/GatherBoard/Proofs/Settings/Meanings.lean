import GatherBoard.Proofs.Settings.Lines

/-!
# What a line of settings means

A line that assigns a valid value to one of the three keys sets what the key stands for; an
invalid value of a known key is reported. Every other line says nothing: a blank line, a
comment, a line without an equals sign and an assignment to an unknown key.
-/

namespace GatherBoard

open Text

/-- The words for yes and for no. -/
def switchWords : Bool → List Text
  | true => ["1".toList, "true".toList, "yes".toList, "on".toList]
  | false => ["0".toList, "false".toList, "no".toList, "off".toList]

/-- A tag source has its name without regard to case. -/
theorem TagSource.read?_eq_some_iff {value : Text} {source : TagSource} :
    TagSource.read? value = some source ↔ lower value = source.label := by
  constructor
  · intro h
    have hl := List.find?_some h
    exact (eq_of_beq hl).symm
  · intro h
    rw [TagSource.read?, h]
    cases source <;> rfl

/-- A level has its name without regard to case. -/
theorem Level.read?_eq_some_iff {value : Text} {level : Level} :
    Level.read? value = some level ↔ upper value = level.label := by
  constructor
  · intro h
    have hl := List.find?_some h
    exact (eq_of_beq hl).symm
  · intro h
    rw [Level.read?, h]
    cases level <;> rfl

/-- A word for yes is read as yes. -/
theorem readSwitch?_of_mem_yes {value : Text} (h : lower value ∈ switchWords true) :
    readSwitch? value = some true := if_pos (List.contains_iff_mem.mpr h)

/-- A word for no is read as no. -/
theorem readSwitch?_of_mem_no {value : Text} (h : lower value ∈ switchWords false) :
    readSwitch? value = some false := by
  have hall : ∀ word ∈ switchWords false, word ∉ switchWords true := by decide
  have hn : ¬ (switchWords true).contains (lower value) = true :=
    fun hc => hall _ h (List.contains_iff_mem.mp hc)
  exact (if_neg hn).trans (if_pos (List.contains_iff_mem.mpr h))

/-- A switch is one of its words without regard to case. -/
theorem readSwitch?_eq_some_iff {value : Text} {b : Bool} :
    readSwitch? value = some b ↔ lower value ∈ switchWords b := by
  constructor
  · intro h
    simp only [readSwitch?] at h
    split at h
    · next hc =>
      obtain rfl := Option.some.inj h
      exact List.contains_iff_mem.mp hc
    split at h
    · next hc =>
      obtain rfl := Option.some.inj h
      exact List.contains_iff_mem.mp hc
    · cases h
  · intro h
    cases b with
    | true => exact readSwitch?_of_mem_yes h
    | false => exact readSwitch?_of_mem_no h

namespace Settings

/-- The keys of settings. -/
def keys : List Text :=
  ["tag_source".toList, "apply_column_order".toList, "log_level".toList]

/-- The line has this meaning. -/
inductive Means : Text → Meaning → Prop
  | tagSource {line value : Text} {source : TagSource}
    (assigns : Assigns line "tag_source".toList value) (valid : lower value = source.label) :
    Means line (.tagSource source)
  | columnOrder {line value : Text} {b : Bool}
    (assigns : Assigns line "apply_column_order".toList value)
    (valid : lower value ∈ switchWords b) : Means line (.columnOrder b)
  | logLevel {line value : Text} {level : Level}
    (assigns : Assigns line "log_level".toList value) (valid : upper value = level.label) :
    Means line (.logLevel level)
  | badTagSource {line value : Text} (assigns : Assigns line "tag_source".toList value)
    (invalid : ∀ source : TagSource, lower value ≠ source.label) :
    Means line (.invalid (.badTagSource value))
  | badColumnOrder {line value : Text} (assigns : Assigns line "apply_column_order".toList value)
    (invalid : ∀ b, lower value ∉ switchWords b) : Means line (.invalid (.badColumnOrder value))
  | badLogLevel {line value : Text} (assigns : Assigns line "log_level".toList value)
    (invalid : ∀ level : Level, upper value ≠ level.label) :
    Means line (.invalid (.badLogLevel value))
  | nothing {line : Text} (silent : ∀ key value, Assigns line key value → key ∉ keys) :
    Means line .nothing

/-- A line that says nothing. -/
inductive IsSilent : Text → Prop
  | blank {line : Text} (h : AllBlank line) : IsSilent line
  | comment {line : Text} (h : BeginsWith line '#') : IsSilent line
  | noAssignment {line : Text} (h : '=' ∉ line) : IsSilent line
  | unknownKey {line key value : Text} (h : Assigns line key value) (unknown : key ∉ keys) :
    IsSilent line

variable {line key value : Text} {m : Meaning}

/-- Whether a value is valid decides what its line means. -/
theorem means_getD {α : Type} {f : α → Meaning} {o : Option α} {bad : Meaning}
    (hgood : ∀ a, o = some a → Means line (f a)) (hbad : (∀ a, o ≠ some a) → Means line bad) :
    Means line ((o.map f).getD bad) := by
  cases o with
  | none => exact hbad (by simp)
  | some a => exact hgood a rfl

/-- Every line has the meaning that is computed. -/
theorem means_ofLine (line : Text) : Means line (Meaning.ofLine line) := by
  unfold Meaning.ofLine
  cases h : readLine? line with
  | none =>
    refine .nothing (fun key value ha => ?_)
    rw [readLine?_eq_some_iff.mpr ha] at h
    cases h
  | some assignment =>
    obtain ⟨key, value⟩ := assignment
    have ha := readLine?_eq_some_iff.mp h
    simp only [Meaning.of]
    split
    · next hk =>
      subst hk
      exact means_getD (fun _ hs => .tagSource ha (TagSource.read?_eq_some_iff.mp hs))
        fun hn => .badTagSource ha fun s hs => hn s (TagSource.read?_eq_some_iff.mpr hs)
    split
    · next hk =>
      subst hk
      exact means_getD (fun _ hb => .columnOrder ha (readSwitch?_eq_some_iff.mp hb))
        fun hn => .badColumnOrder ha fun b hb => hn b (readSwitch?_eq_some_iff.mpr hb)
    split
    · next hk =>
      subst hk
      exact means_getD (fun _ hl => .logLevel ha (Level.read?_eq_some_iff.mp hl))
        fun hn => .badLogLevel ha fun l hl => hn l (Level.read?_eq_some_iff.mpr hl)
    · next h₁ h₂ h₃ =>
      refine .nothing (fun key' value' ha' => ?_)
      rw [(ha'.unique ha).1, keys, List.mem_cons, List.mem_cons, List.mem_singleton]
      exact not_or.mpr ⟨h₁, not_or.mpr ⟨h₂, h₃⟩⟩

/-- The meaning of an assignment is that of its key and value. -/
theorem Assigns.ofLine_eq (h : Assigns line key value) :
    Meaning.ofLine line = Meaning.of key value := by
  rw [Meaning.ofLine, readLine?_eq_some_iff.mpr h]

/-- A line has only the meaning that is computed. -/
theorem Means.ofLine_eq (h : Means line m) : Meaning.ofLine line = m := by
  cases h with
  | tagSource assigns valid =>
    rw [assigns.ofLine_eq, Meaning.of, if_pos rfl, TagSource.read?_eq_some_iff.mpr valid]
    rfl
  | columnOrder assigns valid =>
    rw [assigns.ofLine_eq, Meaning.of, if_neg (by decide), if_pos rfl,
      readSwitch?_eq_some_iff.mpr valid]
    rfl
  | logLevel assigns valid =>
    rw [assigns.ofLine_eq, Meaning.of, if_neg (by decide), if_neg (by decide), if_pos rfl,
      Level.read?_eq_some_iff.mpr valid]
    rfl
  | @badTagSource value assigns invalid =>
    have hn : TagSource.read? value = none := Option.eq_none_iff_forall_ne_some.mpr
      fun s hs => invalid s (TagSource.read?_eq_some_iff.mp hs)
    rw [assigns.ofLine_eq, Meaning.of, if_pos rfl, hn]
    rfl
  | @badColumnOrder value assigns invalid =>
    have hn : readSwitch? value = none := Option.eq_none_iff_forall_ne_some.mpr
      fun b hb => invalid b (readSwitch?_eq_some_iff.mp hb)
    rw [assigns.ofLine_eq, Meaning.of, if_neg (by decide), if_pos rfl, hn]
    rfl
  | @badLogLevel value assigns invalid =>
    have hn : Level.read? value = none := Option.eq_none_iff_forall_ne_some.mpr
      fun l hl => invalid l (Level.read?_eq_some_iff.mp hl)
    rw [assigns.ofLine_eq, Meaning.of, if_neg (by decide), if_neg (by decide), if_pos rfl, hn]
    rfl
  | nothing silent =>
    unfold Meaning.ofLine
    cases hr : readLine? line with
    | none => rfl
    | some assignment =>
      have hk := silent _ _ (readLine?_eq_some_iff.mp hr)
      rw [keys, List.mem_cons, List.mem_cons, List.mem_singleton, not_or, not_or] at hk
      simp only [Meaning.of, if_neg hk.1, if_neg hk.2.1, if_neg hk.2.2]

/-- The meaning of a line is the one that is computed. -/
theorem means_iff : Means line m ↔ Meaning.ofLine line = m :=
  ⟨Means.ofLine_eq, fun h => h ▸ means_ofLine line⟩

/-- Silent lines mean nothing, and no other lines do. -/
theorem isSilent_iff : IsSilent line ↔ Means line .nothing := by
  constructor
  · intro h
    cases h with
    | blank h =>
      have hn : '=' ∉ line := fun hm => absurd (h _ hm) (by decide)
      rw [means_iff, Meaning.ofLine, readLine?_of_not_mem hn]
    | comment h => rw [means_iff, Meaning.ofLine, readLine?_of_beginsWith h]
    | noAssignment h => rw [means_iff, Meaning.ofLine, readLine?_of_not_mem h]
    | unknownKey h unknown => exact .nothing fun key' _ h' => (h'.unique h).1 ▸ unknown
  · intro h
    cases h with
    | nothing silent =>
      by_cases hm : '=' ∈ line
      · obtain ⟨k, w, hl, hk⟩ := List.eq_append_cons_of_mem hm
        by_cases hc : BeginsWith k '#'
        · exact .comment (hl ▸ hc.append _)
        · obtain ⟨v, hv⟩ := exists_hasValue w
          have ha : Assigns line (lower (trim k)) v := hl ▸ .intro hk hc hv
          exact .unknownKey ha (silent _ _ ha)
      · exact .noAssignment hm

end Settings

end GatherBoard
