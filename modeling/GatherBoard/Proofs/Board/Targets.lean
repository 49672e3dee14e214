import GatherBoard.Proofs.Board.Conservation

/-!
# The targets of cards

Where a card is sent depends on its facts and on the ids and rules of the
columns, and not on where the card is or on what else is on the board. A fresh
plan lands each card in its target, if it has one.
-/

namespace GatherBoard

/-- The id of the column that a card with these facts is sent to. -/
def targetId? (columns : List RuledColumn) (facts : Facts) (today : Date) :
    Except Mismatch (Option Text) :=
  (targetColumn? columns facts today).map (Option.map Column.id)

/-- Two columns with the same id and the same rules. -/
def SameRules (r r' : RuledColumn) : Prop := r.column.id = r'.column.id ∧ r.rules = r'.rules

/-- A gathering column is one of the columns. -/
theorem exists_of_gatheringColumn? {rs : List RuledColumn} {facts : Facts} {today : Date}
    {c : Column} (h : gatheringColumn? rs facts today = .ok (some c)) : ∃ r ∈ rs, r.column = c := by
  induction rs with
  | nil => cases h
  | cons r rs ih =>
    obtain ⟨b, -, h⟩ := bind_eq_ok_iff.mp h
    cases b with
    | true =>
      cases h
      exact ⟨r, List.mem_cons_self, rfl⟩
    | false =>
      obtain ⟨r', hr', hc⟩ := ih h
      exact ⟨r', List.mem_cons_of_mem r hr', hc⟩

/-- The id of the gathering column depends on ids and rules alone. -/
theorem map_gatheringColumn?_eq {rs rs' : List RuledColumn} (h : List.Forall₂ SameRules rs rs')
    (facts : Facts) (today : Date) :
    (gatheringColumn? rs facts today).map (Option.map Column.id) =
      (gatheringColumn? rs' facts today).map (Option.map Column.id) := by
  induction h with
  | nil => rfl
  | @cons r r' rs rs' hr h ih =>
    obtain ⟨hid, hrules⟩ := hr
    rw [gatheringColumn?, gatheringColumn?, hrules]
    cases r'.rules.matchesCard facts today with
    | error cause => rfl
    | ok b =>
      cases b with
      | true => exact congrArg (fun id => Except.ok (some id)) hid
      | false => exact ih

/-- The id of the fallback column depends on ids and rules alone. -/
theorem map_fallbackColumn?_eq {rs rs' : List RuledColumn} (h : List.Forall₂ SameRules rs rs') :
    (fallbackColumn? rs).map Column.id = (fallbackColumn? rs').map Column.id := by
  unfold fallbackColumn?
  induction h with
  | nil => rfl
  | @cons r r' rs rs' hr h ih =>
    obtain ⟨hid, hrules⟩ := hr
    rw [List.find?_cons, List.find?_cons, hrules]
    cases r'.rules.isFallback with
    | true => exact congrArg some hid
    | false => exact ih

/-- The target of a card, step by step: nothing is gathered of a card that stays, and
the fallback column is asked last. -/
theorem targetId?_eq (rs : List RuledColumn) (facts : Facts) (today : Date) :
    targetId? rs facts today =
      if facts.sticky || !facts.hasAttributes then .ok none
      else ((gatheringColumn? rs facts today).map (Option.map Column.id)).map fun id? =>
        id? <|> (fallbackColumn? rs).map Column.id := by
  unfold targetId? targetColumn?
  split
  · rfl
  · cases gatheringColumn? rs facts today with
    | error cause => rfl
    | ok c? => cases c? <;> rfl

/-- The target of a card depends on ids and rules alone. -/
theorem targetId?_congr {rs rs' : List RuledColumn} (h : List.Forall₂ SameRules rs rs')
    (facts : Facts) (today : Date) : targetId? rs facts today = targetId? rs' facts today := by
  rw [targetId?_eq, targetId?_eq, map_gatheringColumn?_eq h, map_fallbackColumn?_eq h]

/-- The target of a card is one of the columns. -/
theorem mem_of_targetId? {rs : List RuledColumn} {facts : Facts} {today : Date} {id : Text}
    (h : targetId? rs facts today = .ok (some id)) : id ∈ rs.map fun r => r.column.id := by
  rw [targetId?_eq] at h
  split at h
  · cases h
  · cases hg : gatheringColumn? rs facts today with
    | error cause =>
      rw [hg] at h
      cases h
    | ok c? =>
      rw [hg] at h
      cases c? with
      | some c =>
        cases h
        obtain ⟨r, hr, rfl⟩ := exists_of_gatheringColumn? hg
        exact List.mem_map_of_mem hr
      | none =>
        have hf : (fallbackColumn? rs).map Column.id = some id := by
          simpa [Except.map] using h
        unfold fallbackColumn? at hf
        rw [Option.map_map, Option.map_eq_some_iff] at hf
        obtain ⟨r, hr, rfl⟩ := hf
        exact List.mem_map_of_mem (List.mem_of_find?_eq_some hr)

namespace Board

variable {b b' : Board} {today : Date} {select : TextSelector} {plan : Plan}
  {rs : List RuledColumn}

/-- The columns of a board with their rules are read one by one. -/
theorem ruledColumns_eq_ok_iff : b.ruledColumns = .ok rs ↔
    List.Forall₂ (fun c r => ColumnRules.read c.title = .ok r.rules ∧ r.column = c) b.columns rs := by
  unfold ruledColumns
  rw [mapM_eq_ok_iff]
  have hr (c : Column) (r : RuledColumn) :
      (do let rules ← ColumnRules.read c.title; return (⟨c, rules⟩ : RuledColumn)) = .ok r ↔
        ColumnRules.read c.title = .ok r.rules ∧ r.column = c := by
    rw [bind_eq_ok_iff]
    constructor
    · rintro ⟨rules, hrules, ⟨⟩⟩
      exact ⟨hrules, rfl⟩
    · rintro ⟨hrules, rfl⟩
      exact ⟨r.rules, hrules, rfl⟩
  simp only [hr]

/-- The columns with rules have the ids of the columns. -/
theorem map_id_of_ruledColumns (h : b.ruledColumns = .ok rs) :
    (rs.map fun r => r.column.id) = b.columnIds := by
  refine (map_eq_of_forall₂ ((ruledColumns_eq_ok_iff.mp h).imp ?_)).symm
  rintro c r ⟨-, rfl⟩
  rfl

/-- A plan that sorts a board has one placement for each card, with its target. -/
theorem sort_eq_ok_iff : b.sort today select = .ok plan ↔
    ∃ rs, b.ruledColumns = .ok rs ∧
      List.Forall₂ (fun x placement => ∃ target,
        targetId? rs (select.factsOf x.2) today = .ok target ∧
          placement = ⟨x.2.id, x.1.id, target⟩) b.traversal plan.placements ∧
      plan.diagnostics = columnProblems none [] rs := by
  have hx (rs : List RuledColumn) (x : Column × Card) (placement : Placement) :
      (do
        let target? ← (targetColumn? rs (select.factsOf x.2) today).mapError SortError.mismatch
        return (⟨x.2.id, x.1.id, target?.map Column.id⟩ : Placement)) = .ok placement ↔
      ∃ target, targetId? rs (select.factsOf x.2) today = .ok target ∧
        placement = ⟨x.2.id, x.1.id, target⟩ := by
    unfold targetId?
    cases targetColumn? rs (select.factsOf x.2) today with
    | error cause => simp [Except.map, Except.mapError, bind, Except.bind]
    | ok c? => simp [Except.map, Except.mapError, bind, Except.bind, pure, Except.pure, eq_comm]
  unfold Board.sort
  simp only [bind_eq_ok_iff, mapError_eq_ok_iff, mapM_eq_ok_iff, hx]
  constructor
  · rintro ⟨rs, hrs, placements, hp, ⟨⟩⟩
    exact ⟨rs, hrs, hp, rfl⟩
  · rintro ⟨rs, hrs, hp, hd⟩
    refine ⟨rs, hrs, plan.placements, hp, ?_⟩
    rw [← hd]
    rfl

/-- The headers of a board that is sorted are read. -/
theorem exists_read_of_sort (hs : b.sort today select = .ok plan) {c : Column}
    (hc : c ∈ b.columns) : ∃ rules, ColumnRules.read c.title = .ok rules := by
  obtain ⟨rs, hr, -, -⟩ := sort_eq_ok_iff.mp hs
  obtain ⟨r, -, hread, -⟩ := exists_of_forall₂_of_mem (ruledColumns_eq_ok_iff.mp hr).flip hc
  exact ⟨r.rules, hread⟩

/-- A board that can be sorted can have its headers read for their order tags. -/
theorem exists_apply_of_sort (hs : b.sort today select = .ok plan) (reorder : Bool) :
    ∃ b', b.apply plan select reorder = .ok b' := by
  cases ha : b.apply plan select reorder with
  | ok b' => exact ⟨b', rfl⟩
  | error cause =>
    obtain ⟨-, c, hc, he⟩ := exists_of_apply_eq_error ha
    obtain ⟨rules, hread⟩ := exists_read_of_sort hs hc
    rw [he] at hread
    cases hread

/-- A board whose headers are read is sorted if each of its cards has an answer. -/
theorem exists_sort_of_targets (hr : b.ruledColumns = .ok rs)
    (ht : ∀ x ∈ b.traversal, ∃ target, targetId? rs (select.factsOf x.2) today = .ok target) :
    ∃ plan, b.sort today select = .ok plan := by
  have hm : ∀ x ∈ b.traversal, ∃ m : Placement, ∃ target,
      targetId? rs (select.factsOf x.2) today = .ok target ∧ m = ⟨x.2.id, x.1.id, target⟩ := by
    intro x hx
    obtain ⟨target, ht⟩ := ht x hx
    exact ⟨_, target, ht, rfl⟩
  obtain ⟨placements, hf⟩ := exists_forall₂ hm
  exact ⟨⟨placements, columnProblems none [] rs⟩, sort_eq_ok_iff.mpr ⟨rs, hr, hf, rfl⟩⟩

end Board

end GatherBoard
