import GatherBoard.Proofs.Board.Targets
import GatherBoard.Proofs.Order.CardOrders

/-!
# Sorting a sorted board

After a fresh plan every card is in its target or has none. A board that has the
same columns and cards, under whatever ids of cards, is sorted by a plan without
moves, and such a plan leaves it as it is.
-/

namespace GatherBoard

/-- A placement that does not move its card leads nowhere else. -/
theorem Placement.getD_target {m : Placement} (h : m.isMove = false) :
    m.target.getD m.source = m.source := by
  unfold Placement.isMove at h
  cases ht : m.target with
  | none => rfl
  | some target => simpa [ht] using h

/-- In a plan that names each card once every placement counts. -/
theorem Plan.landing_of_placement {p : Plan} (hn : (p.placements.map Placement.card).Nodup)
    {m : Placement} (hm : m ∈ p.placements) {ids : List Text}
    (hk : ∀ target, m.target = some target → target ∈ ids) :
    p.landing ids m.card m.source = m.target.getD m.source := by
  rw [← Plan.lands_iff]
  cases hmove : m.isMove with
  | false =>
    rw [Placement.getD_target hmove]
    refine .stayed (fun target hl => ?_)
    obtain ⟨before, move, after, hs, ⟨hc, hv, -⟩, -⟩ := hl
    have he : move = m := List.inj_on_of_nodup_map hn (by rw [hs]; simp) hm hc
    rw [he, hmove] at hv
    cases hv
  | true =>
    obtain ⟨target, ht⟩ := Placement.exists_target hmove
    obtain ⟨before, after, hs⟩ := List.append_of_mem hm
    rw [ht, Option.getD_some]
    refine .moved ⟨before, m, after, hs, ⟨rfl, hmove, ht⟩, fun later hl hc => ?_⟩ (hk target ht)
    rw [hs, List.map_append, List.map_cons, List.nodup_middle, List.nodup_cons] at hn
    exact absurd (List.mem_append_right _ (List.mem_map.mpr ⟨later, hl, hc⟩)) hn.1

namespace Board

variable {b b' : Board} {today : Date} {select : TextSelector} {plan : Plan}
  {rs : List RuledColumn} {reorder : Bool}

/-- A fresh plan lands each card in its target, or in its own column if it has
none. -/
theorem landing_of_sort (hn : (b.cards.map Card.id).Nodup) (hr : b.ruledColumns = .ok rs)
    (hs : b.sort today select = .ok plan) {x : Column × Card} (hx : x ∈ b.traversal) :
    ∃ target, targetId? rs (select.factsOf x.2) today = .ok target ∧
      plan.landing b.columnIds x.2.id x.1.id = target.getD x.1.id := by
  obtain ⟨rs', hr', hf, -⟩ := sort_eq_ok_iff.mp hs
  rw [hr, Except.ok.injEq] at hr'
  subst hr'
  have hcards : plan.placements.map Placement.card = b.cards.map Card.id := by
    rw [← map_snd_traversal, List.map_map]
    refine (map_eq_of_forall₂ (hf.imp ?_)).symm
    rintro y m ⟨target, -, rfl⟩
    rfl
  obtain ⟨m, hm, target, ht, rfl⟩ := exists_of_forall₂_of_mem hf.flip hx
  refine ⟨target, ht, Plan.landing_of_placement (hcards ▸ hn) hm (fun id hid => ?_)⟩
  rw [← map_id_of_ruledColumns hr]
  exact mem_of_targetId? (ht.trans (congrArg Except.ok hid))

/-- After a fresh plan every card is in its target or has none. -/
theorem target_of_apply (hn : (b.cards.map Card.id).Nodup) (hr : b.ruledColumns = .ok rs)
    (hs : b.sort today select = .ok plan) (ha : b.apply plan select reorder = .ok b')
    {y : Column × Card} (hy : y ∈ b'.traversal) :
    ∃ target, targetId? rs (select.factsOf y.2) today = .ok target ∧
      target.getD y.1.id = y.1.id := by
  obtain ⟨x, hx, hcard, hl⟩ := (rearranged_of_apply ha).exists_of_mem_traversal hy
  obtain ⟨target, ht, hland⟩ := landing_of_sort hn hr hs hx
  refine ⟨target, hcard ▸ ht, ?_⟩
  rw [hland] at hl
  cases target with
  | none => rfl
  | some id => exact hl

end Board

/-- Two columns with the same id and title and with cards of the same texts. -/
def SameColumn (c c' : Column) : Prop :=
  (c.id, c.title) = (c'.id, c'.title) ∧ List.Forall₂ SameText c.cards c'.cards

namespace Board

variable {b b' b'' : Board} {today : Date} {source : TagSource} {plan : Plan}
  {rs : List RuledColumn} {reorder : Bool}

/-- The same columns are traversed in the same way. -/
theorem forall₂_traversal (h : List.Forall₂ SameColumn b.columns b'.columns) :
    List.Forall₂ (fun x y => x.1.id = y.1.id ∧ SameText x.2 y.2) b.traversal b'.traversal := by
  refine List.rel_flatMap h (fun c c' hc => ?_)
  obtain ⟨hid, hcards⟩ := hc
  rw [List.forall₂_map_left_iff, List.forall₂_map_right_iff]
  exact hcards.imp (fun _ _ ht => ⟨congrArg Prod.fst hid, ht⟩)

/-- Columns with the same ids and titles have the same rules. -/
theorem exists_ruledColumns (hr : b.ruledColumns = .ok rs)
    (h : (b'.columns.map fun c => (c.id, c.title)) = b.columns.map fun c => (c.id, c.title)) :
    ∃ rs', b'.ruledColumns = .ok rs' ∧ List.Forall₂ SameRules rs rs' := by
  rw [ruledColumns_eq_ok_iff] at hr
  simp only [ruledColumns_eq_ok_iff]
  generalize b.columns = cs at hr h
  generalize b'.columns = cs' at h
  induction hr generalizing cs' with
  | nil =>
    rw [List.map_nil, List.map_eq_nil_iff] at h
    subst h
    exact ⟨[], .nil, .nil⟩
  | @cons c r cs rs hc _ ih =>
    obtain ⟨c', cs', rfl, hcc, h⟩ := List.map_eq_cons_iff.mp h
    obtain ⟨rs', hr', hrs⟩ := ih cs' h
    rw [Prod.mk.injEq] at hcc
    refine ⟨⟨c', r.rules⟩ :: rs', .cons ⟨?_, rfl⟩ hr', .cons ⟨?_, rfl⟩ hrs⟩
    · rw [hcc.2]
      exact hc.1
    · rw [hc.2]
      exact hcc.1.symm

/-- Boards with the same columns have the same ids and titles of columns. -/
theorem map_columns_eq (h : List.Forall₂ SameColumn b.columns b'.columns) :
    (b'.columns.map fun c => (c.id, c.title)) = b.columns.map fun c => (c.id, c.title) :=
  (map_eq_of_forall₂ (h.imp (fun _ _ hc => hc.1))).symm

/-- Also under other ids of cards every card after a fresh plan is in its target or
has none. -/
theorem target_of_sameColumn {rs' : List RuledColumn} (hn : (b.cards.map Card.id).Nodup)
    (hr : b.ruledColumns = .ok rs) (hrs : List.Forall₂ SameRules rs rs')
    (hs : b.sort today source = .ok plan) (ha : b.apply plan source reorder = .ok b')
    (h : List.Forall₂ SameColumn b'.columns b''.columns) {z : Column × Card}
    (hz : z ∈ b''.traversal) :
    ∃ target, targetId? rs' (TextSelector.factsOf source z.2) today = .ok target ∧
      target.getD z.1.id = z.1.id := by
  obtain ⟨y, hy, hid, htext⟩ := exists_of_forall₂_of_mem (forall₂_traversal h) hz
  obtain ⟨target, ht, hg⟩ := target_of_apply hn hr hs ha hy
  refine ⟨target, ?_, hid ▸ hg⟩
  rw [← targetId?_congr hrs, ← ht, TextSelector.factsOf, TextSelector.factsOf,
    source.textOf_eq htext]

/-- A board each of whose cards is in its target or has none is sorted by a plan without
moves. -/
theorem exists_sort_of_settled {select : TextSelector} {rs' : List RuledColumn}
    (hr : b.ruledColumns = .ok rs')
    (ht : ∀ z ∈ b.traversal, ∃ target, targetId? rs' (select.factsOf z.2) today = .ok target ∧
      target.getD z.1.id = z.1.id) :
    ∃ plan', b.sort today select = .ok plan' ∧ plan'.moves = [] := by
  obtain ⟨plan', hs⟩ := exists_sort_of_targets hr (fun z hz => (ht z hz).imp fun target h => h.1)
  obtain ⟨rs, hrs, hf, -⟩ := sort_eq_ok_iff.mp hs
  obtain rfl : rs' = rs := by
    rwa [hr, Except.ok.injEq] at hrs
  refine ⟨plan', hs, List.filter_eq_nil_iff.mpr fun m hm => ?_⟩
  obtain ⟨z, hz, target, htarget, rfl⟩ := exists_of_forall₂_of_mem hf hm
  obtain ⟨target', htarget', hg⟩ := ht z hz
  rw [htarget, Except.ok.injEq] at htarget'
  subst htarget'
  cases target with
  | none => exact Bool.false_ne_true
  | some id =>
    have hid : id = z.1.id := hg
    simp [Placement.isMove, hid]

/-- A board after a fresh plan, under whatever ids of cards, is sorted by a plan
without moves. -/
theorem exists_sort_of_apply (hn : (b.cards.map Card.id).Nodup)
    (hs : b.sort today source = .ok plan) (ha : b.apply plan source reorder = .ok b')
    (h : List.Forall₂ SameColumn b'.columns b''.columns) :
    ∃ plan', b''.sort today source = .ok plan' ∧ plan'.moves = [] := by
  obtain ⟨rs, hr, -, -⟩ := sort_eq_ok_iff.mp hs
  obtain ⟨rs', hr', hrs⟩ :=
    exists_ruledColumns hr ((map_columns_eq h).trans (rearranged_of_apply ha).columns)
  exact exists_sort_of_settled hr' (fun z hz => target_of_sameColumn hn hr hrs hs ha h hz)

/-- A plan without moves leaves the cards of a column in it. -/
theorem cardsAfter_of_no_moves (hm : plan.moves = []) (hn : b.columnIds.Nodup) {c : Column}
    (hc : c ∈ b.columns) : b.cardsAfter plan c.id = c.cards := by
  have hnew (card : Card) : b.newColumn? plan card = none := by
    simp [newColumn?, Plan.destination?, hm]
  rw [← cardsWhere_home hn hc, cardsAfter_eq, cardsWhere]
  simp only [hnew]
  simp

/-- A plan without moves leaves a board as it is if its cards are in order. -/
theorem apply_of_no_moves {select : TextSelector} (hm : plan.moves = [])
    (hn : b.columnIds.Nodup) (ho : ∀ c ∈ b.columns, ∃ orders,
      ordersFor reorder c.title = .ok orders ∧ orderAll orders select c.cards = c.cards) :
    b.apply plan select reorder = .ok b := by
  refine apply_eq_ok_iff.mpr ⟨b.columns, List.forall₂_same.mpr (fun c hc => ?_), rfl⟩
  obtain ⟨orders, hread, horder⟩ := ho c hc
  refine ⟨orders, hread, ?_⟩
  rw [cardsAfter_of_no_moves hm hn hc, horder]

/-- A board after a plan, under whatever ids of cards, is left as it is by a plan
without moves. -/
theorem apply_of_apply {plan' : Plan} (ha : b.apply plan source reorder = .ok b')
    (hn : b.columnIds.Nodup) (h : List.Forall₂ SameColumn b'.columns b''.columns)
    (hm : plan'.moves = []) : b''.apply plan' source reorder = .ok b'' := by
  have hids : b''.columnIds = b'.columnIds := columnIds_eq_of_map_eq (map_columns_eq h)
  rw [← (rearranged_of_apply ha).columnIds_eq, ← hids] at hn
  refine apply_of_no_moves hm hn (fun c'' hc'' => ?_)
  obtain ⟨columns, hf, rfl⟩ := apply_eq_ok_iff.mp ha
  obtain ⟨c', hc', hsame, hcards⟩ := exists_of_forall₂_of_mem h hc''
  obtain ⟨c, -, orders, hread, rfl⟩ := exists_of_forall₂_of_mem hf hc'
  have ht : c.title = c''.title := congrArg Prod.snd hsame
  exact ⟨orders, ht ▸ hread, orderAll_of_sameText orders source hcards⟩

end Board

end GatherBoard
