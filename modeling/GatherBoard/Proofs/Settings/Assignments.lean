import GatherBoard.Proofs.Settings.Meanings

/-!
# Assignments in turn

Lines are assigned one after the other. Each field of the settings is set by assignments of
one kind and kept by all other lines, and so it has in the end what the last valid assignment
of its key says, or what it had before if there is none. An invalid assignment sets no field
and is reported.
-/

namespace GatherBoard

/-- The last line that gives a value gives this one, or no line gives one and it is the base. -/
inductive IsLast {α : Type} (gives : Text → α → Prop) (base : α) : List Text → α → Prop
  | given {before after : List Text} {line : Text} {a : α} (here : gives line a)
    (later : ∀ l ∈ after, ∀ b, ¬ gives l b) : IsLast gives base (before ++ line :: after) a
  | base {lines : List Text} (nowhere : ∀ l ∈ lines, ∀ b, ¬ gives l b) :
    IsLast gives base lines base

/-- Among some lines a last value is given, if none but the base. -/
theorem exists_isLast {α : Type} (gives : Text → α → Prop) (base : α) (lines : List Text) :
    ∃ a, IsLast gives base lines a := by
  induction lines using List.reverseRecOn with
  | nil => exact ⟨base, .base (by simp)⟩
  | append_singleton lines line ih =>
    by_cases hg : ∃ a, gives line a
    · obtain ⟨a, ha⟩ := hg
      exact ⟨a, .given ha (by simp)⟩
    · have hline : ∀ l ∈ [line], ∀ b, ¬ gives l b := by
        rw [List.forall_mem_singleton]
        exact fun b hb => hg ⟨b, hb⟩
      obtain ⟨a, ha⟩ := ih
      cases ha with
      | @given before after given _ here later =>
        rw [List.append_assoc, List.cons_append]
        exact ⟨a, .given here (List.forall_mem_append.mpr ⟨later, hline⟩)⟩
      | base nowhere => exact ⟨base, .base (List.forall_mem_append.mpr ⟨nowhere, hline⟩)⟩

namespace Settings

open Text

/-- The settings are the base with the last valid assignments of the lines on top. -/
structure Overrides (base : Settings) (lines : List Text) (s : Settings) : Prop where
  tagSource : IsLast (fun line source => Means line (.tagSource source)) base.tagSource lines
    s.tagSource
  columnOrder : IsLast (fun line b => Means line (.columnOrder b)) base.applyColumnOrder lines
    s.applyColumnOrder
  logLevel : IsLast (fun line level => Means line (.logLevel level)) base.logLevel lines s.logLevel

/-- The events are those of the invalid assignments of the lines, one for each. -/
inductive Reports : List Text → List Event → Prop
  | nil : Reports [] []
  | invalid {line : Text} {e : Event} {lines : List Text} {es : List Event}
    (here : Means line (.invalid e)) (rest : Reports lines es) : Reports (line :: lines) (e :: es)
  | quiet {line : Text} {lines : List Text} {es : List Event}
    (here : ∀ e, ¬ Means line (.invalid e)) (rest : Reports lines es) : Reports (line :: lines) es

/-- The settings after the assignments of the lines. -/
def assignAll (base : Settings) (lines : List Text) : Settings :=
  (lines.map Meaning.ofLine).foldl assign base

section Fields

variable {α : Type} {field : Settings → α} {make : α → Meaning}

/-- A field of the settings is set by assignments of one kind only. -/
structure IsField (field : Settings → α) (make : α → Meaning) : Prop where
  set : ∀ s a, field (assign s (make a)) = a
  keep : ∀ s m, (∀ a, m ≠ make a) → field (assign s m) = field s

/-- Lines without an assignment to a field leave it as it is. -/
theorem IsField.assignAll_of_forall_not (h : IsField field make) {lines : List Text}
    (hn : ∀ l ∈ lines, ∀ a, ¬ Means l (make a)) (base : Settings) :
    field (assignAll base lines) = field base := by
  induction lines generalizing base with
  | nil => rfl
  | cons line lines ih =>
    rw [List.forall_mem_cons] at hn
    have hline : ∀ a, Meaning.ofLine line ≠ make a := fun a ha => hn.1 a (means_iff.mpr ha)
    exact (ih hn.2 (assign base (Meaning.ofLine line))).trans (h.keep base _ hline)

/-- A field has the last value that is assigned to it. -/
theorem IsField.isLast_iff (h : IsField field make) (base : Settings) (lines : List Text) {a : α} :
    IsLast (fun line a => Means line (make a)) (field base) lines a ↔
      field (assignAll base lines) = a := by
  have hlast : ∀ {b}, IsLast (fun line a => Means line (make a)) (field base) lines b →
      field (assignAll base lines) = b := by
    intro b hb
    cases hb with
    | @given before after line _ here later =>
      have hsplit : assignAll base (before ++ line :: after) =
          assignAll (assign (assignAll base before) (make b)) after := by
        simp only [assignAll, List.map_append, List.map_cons, List.foldl_append, List.foldl_cons,
          here.ofLine_eq]
      rw [hsplit, h.assignAll_of_forall_not later, h.set]
    | base nowhere => exact h.assignAll_of_forall_not nowhere base
  constructor
  · exact hlast
  · rintro rfl
    obtain ⟨b, hb⟩ := exists_isLast (fun line a => Means line (make a)) (field base) lines
    rw [hlast hb]
    exact hb

end Fields

/-- The tag source is set by assignments of tag sources. -/
theorem isField_tagSource : IsField Settings.tagSource Meaning.tagSource where
  set _ _ := rfl
  keep s m hm := by
    cases m with
    | tagSource source => exact absurd rfl (hm source)
    | _ => rfl

/-- The use of order tags is set by switches. -/
theorem isField_applyColumnOrder : IsField Settings.applyColumnOrder Meaning.columnOrder where
  set _ _ := rfl
  keep s m hm := by
    cases m with
    | columnOrder b => exact absurd rfl (hm b)
    | _ => rfl

/-- The log level is set by assignments of levels. -/
theorem isField_logLevel : IsField Settings.logLevel Meaning.logLevel where
  set _ _ := rfl
  keep s m hm := by
    cases m with
    | logLevel level => exact absurd rfl (hm level)
    | _ => rfl

/-- Lines assigned in turn override each field by its last valid assignment. -/
theorem overrides_iff {base s : Settings} {lines : List Text} :
    Overrides base lines s ↔ assignAll base lines = s := by
  constructor
  · intro h
    have ht := (isField_tagSource.isLast_iff base lines).mp h.tagSource
    have ho := (isField_applyColumnOrder.isLast_iff base lines).mp h.columnOrder
    have hl := (isField_logLevel.isLast_iff base lines).mp h.logLevel
    show (⟨(assignAll base lines).tagSource, (assignAll base lines).applyColumnOrder,
      (assignAll base lines).logLevel⟩ : Settings) = s
    rw [ht, ho, hl]
  · rintro rfl
    exact ⟨(isField_tagSource.isLast_iff base lines).mpr rfl,
      (isField_applyColumnOrder.isLast_iff base lines).mpr rfl,
      (isField_logLevel.isLast_iff base lines).mpr rfl⟩

/-- The event of a line is that of its invalid assignment. -/
theorem event?_ofLine_eq_some_iff {line : Text} {e : Event} :
    (Meaning.ofLine line).event? = some e ↔ Means line (.invalid e) := by
  rw [means_iff]
  cases Meaning.ofLine line <;> simp [Meaning.event?]

/-- The events of lines are those of their invalid assignments in turn. -/
theorem reports_iff {lines : List Text} {es : List Event} :
    Reports lines es ↔ (lines.map Meaning.ofLine).filterMap Meaning.event? = es := by
  constructor
  · intro h
    induction h with
    | nil => rfl
    | invalid here _ ih =>
      rw [List.map_cons, List.filterMap_cons_some (event?_ofLine_eq_some_iff.mpr here), ih]
    | @quiet line _ _ here _ ih =>
      have hn : (Meaning.ofLine line).event? = none := by
        rw [Option.eq_none_iff_forall_ne_some]
        exact fun e he => here e (event?_ofLine_eq_some_iff.mp he)
      rw [List.map_cons, List.filterMap_cons_none hn, ih]
  · rintro rfl
    induction lines with
    | nil => exact .nil
    | cons line lines ih =>
      cases he : (Meaning.ofLine line).event? with
      | none =>
        rw [List.map_cons, List.filterMap_cons_none he]
        refine .quiet (fun e hm => ?_) ih
        rw [event?_ofLine_eq_some_iff.mpr hm] at he
        cases he
      | some e =>
        rw [List.map_cons, List.filterMap_cons_some he]
        exact .invalid (event?_ofLine_eq_some_iff.mp he) ih

end Settings

end GatherBoard
