import GatherBoard.Proofs.Board.Targets
import GatherBoard.Proofs.Facts
import GatherBoard.Proofs.Rule.Matching

/-!
# The classification of cards

A plan that sorts a board has one placement for each card. The target in it is told
by the tags of the card and by the ids and headers of the columns alone: the first
column that gathers the card, or else the first fallback column. Boards with the
same headings therefore agree on where a card with the same tags goes.
-/

namespace GatherBoard

/-- The first element of a list that has a property. -/
inductive IsFirst {α : Type} (p : α → Prop) : List α → α → Prop
  | head {x : α} {xs : List α} (holds : p x) : IsFirst p (x :: xs) x
  | tail {x y : α} {xs : List α} (fails : ¬ p x) (rest : IsFirst p xs y) : IsFirst p (x :: xs) y

namespace IsFirst

variable {α : Type} {p : α → Prop} {xs : List α} {x y : α}

/-- The first element with a property has it and is in the list. -/
theorem mem_and_holds (h : IsFirst p xs x) : x ∈ xs ∧ p x := by
  induction h with
  | head holds => exact ⟨List.mem_cons_self, holds⟩
  | tail _ _ ih => exact ⟨List.mem_cons_of_mem _ ih.1, ih.2⟩

/-- Where there is a first element with a property, not every element lacks it. -/
theorem not_forall_not (h : IsFirst p xs x) : ¬ ∀ y ∈ xs, ¬ p y :=
  fun hn => hn x h.mem_and_holds.1 h.mem_and_holds.2

/-- There is one first element with a property. -/
theorem unique (h : IsFirst p xs x) (h' : IsFirst p xs y) : x = y := by
  induction h with
  | head holds =>
    cases h' with
    | head => rfl
    | tail fails => exact absurd holds fails
  | tail fails _ ih =>
    cases h' with
    | head holds => exact absurd holds fails
    | tail _ rest => exact ih rest

end IsFirst

/-- No sorting moves a card with this text: it has the sticky tag, or it has neither a due
date nor a person. -/
def IsFixed (t : Text) : Prop :=
  Tag.stickyBody ∈ Tag.bodies t ∨
    (∀ day, Tag.date Tag.dueKind day ∉ Tag.inText t) ∧ ∀ name, Tag.person name ∉ Tag.inText t

/-- A card is fixed if its facts keep it where it is. -/
theorem isFixed_iff {t : Text} :
    IsFixed t ↔
      ((Facts.ofText t).sticky || !(Facts.ofText t).hasAttributes) = true := by
  rw [Bool.or_eq_true, Facts.sticky_ofText, Bool.not_eq_true', ← Bool.not_eq_true,
    Facts.hasAttributes_ofText, not_or, not_exists, not_exists]
  rfl

/-- The id and the header of a column. -/
def Column.heading (c : Column) : Text × Text := (c.id, c.title)

/-- The ids and headers of the columns, in order. -/
def Board.headings (b : Board) : List (Text × Text) := b.columns.map Column.heading

/-- Where a card with the given text goes on a board with the given headings. -/
inductive Sends (headings : List (Text × Text)) (t : Text) (today : Date) : Option Text → Prop
  /-- A fixed card stays. -/
  | stays (fixed : IsFixed t) : Sends headings t today none
  /-- Any other card goes to the first column that gathers it. -/
  | gathered {id header : Text} (free : ¬ IsFixed t)
    (first : IsFirst (fun h => Gathers h.2 (Facts.ofText t) today) headings (id, header)) :
    Sends headings t today (some id)
  /-- If none does, the card goes to the first fallback column. -/
  | fallback {id header : Text} (free : ¬ IsFixed t)
    (ungathered : ∀ h ∈ headings, ¬ Gathers h.2 (Facts.ofText t) today)
    (first : IsFirst (fun h => HasFallbackTag h.2) headings (id, header)) :
    Sends headings t today (some id)
  /-- If there is none either, the card has nowhere to go. -/
  | nowhere (free : ¬ IsFixed t)
    (ungathered : ∀ h ∈ headings, ¬ Gathers h.2 (Facts.ofText t) today)
    (unsorted : ∀ h ∈ headings, ¬ HasFallbackTag h.2) : Sends headings t today none

/-- A card goes to one place. -/
theorem Sends.unique {headings : List (Text × Text)} {t : Text} {today : Date}
    {target target' : Option Text} (h : Sends headings t today target)
    (h' : Sends headings t today target') : target = target' := by
  cases h with
  | stays fixed =>
    cases h' with
    | stays => rfl
    | gathered free => exact absurd fixed free
    | fallback free => exact absurd fixed free
    | nowhere => rfl
  | gathered free first =>
    cases h' with
    | stays fixed => exact absurd fixed free
    | gathered _ first' => exact congrArg (fun h : Text × Text => some h.1) (first.unique first')
    | fallback _ ungathered => exact absurd ungathered first.not_forall_not
    | nowhere _ ungathered => exact absurd ungathered first.not_forall_not
  | fallback free ungathered first =>
    cases h' with
    | stays fixed => exact absurd fixed free
    | gathered _ first' => exact absurd ungathered first'.not_forall_not
    | fallback _ _ first' => exact congrArg (fun h : Text × Text => some h.1) (first.unique first')
    | nowhere _ _ unsorted => exact absurd unsorted first.not_forall_not
  | nowhere free ungathered unsorted =>
    cases h' with
    | stays => rfl
    | gathered _ first' => exact absurd ungathered first'.not_forall_not
    | fallback _ _ first' => exact absurd unsorted first'.not_forall_not
    | nowhere => rfl

/-- The rules of the column are those of its header. -/
def RuledColumn.IsRead (r : RuledColumn) : Prop := ColumnRules.read r.column.title = .ok r.rules

section Search

variable {rs : List RuledColumn} {facts : Facts} {today : Date} {c : Column}

/-- The search for a gathering column ends at the first one. -/
theorem isFirst_of_gatheringColumn? (hr : ∀ r ∈ rs, r.IsRead)
    (h : gatheringColumn? rs facts today = .ok (some c)) :
    IsFirst (fun h => Gathers h.2 facts today) (rs.map fun r => r.column.heading) c.heading := by
  induction rs with
  | nil => cases h
  | cons r rs ih =>
    obtain ⟨answer, hm, h⟩ := bind_eq_ok_iff.mp h
    have hg := gathers_iff_of_matchesCard (hr r List.mem_cons_self) hm
    cases answer with
    | true =>
      cases h
      exact .head (hg.mpr rfl)
    | false =>
      have hn : ¬ Gathers r.column.title facts today := fun h => Bool.false_ne_true (hg.mp h)
      exact .tail hn (ih (fun r' hr' => hr r' (List.mem_cons_of_mem r hr')) h)

/-- The search for a gathering column ends without one if there is none. -/
theorem not_gathers_of_gatheringColumn? (hr : ∀ r ∈ rs, r.IsRead)
    (h : gatheringColumn? rs facts today = .ok none) :
    ∀ h ∈ rs.map fun r => r.column.heading, ¬ Gathers h.2 facts today := by
  induction rs with
  | nil => simp
  | cons r rs ih =>
    obtain ⟨answer, hm, h⟩ := bind_eq_ok_iff.mp h
    have hg := gathers_iff_of_matchesCard (hr r List.mem_cons_self) hm
    cases answer with
    | true => cases h
    | false =>
      rw [List.map_cons, List.forall_mem_cons]
      have hn : ¬ Gathers r.column.title facts today := fun h => Bool.false_ne_true (hg.mp h)
      exact ⟨hn, ih (fun r' hr' => hr r' (List.mem_cons_of_mem r hr')) h⟩

/-- The fallback column is the first with one of the two tags. -/
theorem isFirst_of_fallbackColumn? (hr : ∀ r ∈ rs, r.IsRead) (h : fallbackColumn? rs = some c) :
    IsFirst (fun h => HasFallbackTag h.2) (rs.map fun r => r.column.heading) c.heading := by
  unfold fallbackColumn? at h
  induction rs with
  | nil => cases h
  | cons r rs ih =>
    have ht := isFallback_iff_of_read (hr r List.mem_cons_self)
    rw [List.find?_cons] at h
    cases hf : r.rules.isFallback with
    | true =>
      rw [hf] at h
      cases h
      exact .head (ht.mp hf)
    | false =>
      rw [hf] at h
      have hn : ¬ HasFallbackTag r.column.title := by
        rw [← ht, hf]
        exact Bool.false_ne_true
      exact .tail hn (ih (fun r' hr' => hr r' (List.mem_cons_of_mem r hr')) h)

/-- Without a fallback column no header has one of the two tags. -/
theorem not_hasFallbackTag_of_fallbackColumn? (hr : ∀ r ∈ rs, r.IsRead)
    (h : fallbackColumn? rs = none) :
    ∀ h ∈ rs.map fun r => r.column.heading, ¬ HasFallbackTag h.2 := by
  unfold fallbackColumn? at h
  rw [Option.map_eq_none_iff, List.find?_eq_none] at h
  intro heading hm
  obtain ⟨r, hrm, rfl⟩ := List.mem_map.mp hm
  intro hf
  exact h r hrm ((isFallback_iff_of_read (hr r hrm)).mpr hf)

/-- The target of a card is where the headings send it. -/
theorem sends_of_targetId? (hr : ∀ r ∈ rs, r.IsRead) {t : Text} {target : Option Text}
    (h : targetId? rs (Facts.ofText t) today = .ok target) :
    Sends (rs.map fun r => r.column.heading) t today target := by
  rw [targetId?_eq] at h
  by_cases hfix : IsFixed t
  · rw [if_pos (isFixed_iff.mp hfix), Except.ok.injEq] at h
    subst h
    exact .stays hfix
  · rw [if_neg (fun hb => hfix (isFixed_iff.mpr hb)), map_eq_ok_iff] at h
    obtain ⟨id?, hid, h⟩ := h
    obtain ⟨column?, hg, rfl⟩ := map_eq_ok_iff.mp hid
    cases column? with
    | some c =>
      subst h
      exact .gathered hfix (isFirst_of_gatheringColumn? hr hg)
    | none =>
      have hn := not_gathers_of_gatheringColumn? hr hg
      cases hf : fallbackColumn? rs with
      | some c =>
        rw [hf] at h
        subst h
        exact .fallback hfix hn (isFirst_of_fallbackColumn? hr hf)
      | none =>
        rw [hf] at h
        subst h
        exact .nowhere hfix hn (not_hasFallbackTag_of_fallbackColumn? hr hf)

end Search

namespace Board

variable {b : Board} {today : Date} {select : TextSelector} {plan : Plan}

/-- The columns with rules have the headings of the board, and the rules are read off them. -/
theorem headings_of_ruledColumns {rs : List RuledColumn} (h : b.ruledColumns = .ok rs) :
    (rs.map fun r => r.column.heading) = b.headings ∧ ∀ r ∈ rs, r.IsRead := by
  have hf := ruledColumns_eq_ok_iff.mp h
  constructor
  · refine (map_eq_of_forall₂ (hf.imp ?_)).symm
    rintro c r ⟨-, rfl⟩
    rfl
  · intro r hr
    obtain ⟨c, -, hread, rfl⟩ := exists_of_forall₂_of_mem hf hr
    exact hread

/-- Each placement of a plan that sorts a board is that of its card, sent by the headings. -/
theorem forall₂_placements (h : b.sort today select = .ok plan) :
    List.Forall₂ (fun x m => m.card = x.2.id ∧ m.source = x.1.id ∧
      Sends b.headings (select x.2) today m.target) b.traversal plan.placements := by
  obtain ⟨rs, hrs, hf, -⟩ := sort_eq_ok_iff.mp h
  obtain ⟨hh, hr⟩ := headings_of_ruledColumns hrs
  refine hf.imp ?_
  rintro x m ⟨target, ht, rfl⟩
  exact ⟨rfl, rfl, hh ▸ sends_of_targetId? hr ht⟩

/-- Sorting is first-match classification: the plan has one placement for each card in board
order, with the card's target. Two boards with the same headings give cards with the same
text the same target. -/
theorem sort_classifies (h : b.sort today select = .ok plan) :
    List.Forall₂ (fun x m => m.card = x.2.id ∧ m.source = x.1.id ∧
      Sends b.headings (select x.2) today m.target) b.traversal plan.placements ∧
    ∀ (b' : Board) (select' : TextSelector) (plan' : Plan),
      b'.headings = b.headings → b'.sort today select' = .ok plan' →
      ∀ x m x' m', (x, m) ∈ b.traversal.zip plan.placements →
        (x', m') ∈ b'.traversal.zip plan'.placements → select' x'.2 = select x.2 →
        m'.target = m.target := by
  refine ⟨forall₂_placements h, ?_⟩
  intro b' select' plan' hb h' x m x' m' hx hx' ht
  have hs := ((List.forall₂_iff_zip.mp (forall₂_placements h)).2 hx).2.2
  have hs' := ((List.forall₂_iff_zip.mp (forall₂_placements h')).2 hx').2.2
  rw [hb, ht] at hs'
  exact hs'.unique hs

end Board

/-- A board with a fallback column, two gathering columns that overlap, and a late
fallback column. -/
def triageBoard : Board where
  columns := [
    ⟨"a".toList, "Inbox #unsorted".toList, [
      ⟨"1".toList, "fixed @sticky @Reto".toList, [], false⟩,
      ⟨"2".toList, "no tags".toList, [], false⟩]⟩,
    ⟨"b".toList, "Reto #gather_reto&day<7".toList, [⟨"3".toList, "@anna".toList, [], true⟩]⟩,
    ⟨"c".toList, "Dated #gather_day<7|bruno".toList, [
      ⟨"4".toList, "@2024-04-09".toList, "@RETO".toList, false⟩]⟩,
    ⟨"a".toList, "Later #ungathered".toList, [⟨"5".toList, "@2024-04-01".toList, [], false⟩]⟩]
  title := []
  header := none
  footer := none

/-- The day of the triage. -/
def triageDay : Date := ⟨2024, 4, 8, by decide, by decide, by decide⟩

/-- The plan of that day. -/
def triagePlan : Plan where
  placements := [
    ⟨"1".toList, "a".toList, none⟩,
    ⟨"2".toList, "a".toList, none⟩,
    ⟨"3".toList, "b".toList, some "a".toList⟩,
    ⟨"4".toList, "c".toList, some "b".toList⟩,
    ⟨"5".toList, "a".toList, some "c".toList⟩]
  diagnostics := [("a".toList, [⟨ungatheredTag, .secondFallback "Inbox #unsorted".toList⟩])]

/-- The cards of this board are sent by its headings, and so are those of every other board
with these headings. -/
theorem triageBoard_classified :
    triageBoard.sort triageDay TagSource.titleAndDescription = .ok triagePlan ∧
    List.Forall₂ (fun x m => m.card = x.2.id ∧ m.source = x.1.id ∧
      Sends triageBoard.headings (TagSource.titleAndDescription.textOf x.2) triageDay m.target)
      triageBoard.traversal triagePlan.placements ∧
    ∀ (b' : Board) (select' : TextSelector) (plan' : Plan),
      b'.headings = triageBoard.headings → b'.sort triageDay select' = .ok plan' →
      ∀ x m x' m', (x, m) ∈ triageBoard.traversal.zip triagePlan.placements →
        (x', m') ∈ b'.traversal.zip plan'.placements →
        select' x'.2 = TagSource.titleAndDescription.textOf x.2 → m'.target = m.target := by
  have hs : triageBoard.sort triageDay TagSource.titleAndDescription = .ok triagePlan := by
    decide +kernel
  exact ⟨hs, Board.sort_classifies hs⟩

end GatherBoard
