import GatherBoard.Proofs.Board.Classification
import GatherBoard.Proofs.Board.Resorting

/-!
# Fresh plans settle a board

On a board without repeated ids a fresh plan can always be applied, and afterwards
every card is where its placement sends it. The next plan gives the cards the same
targets, moves none of them, and leaves the board as it is, in every order of cards.
-/

namespace GatherBoard

/-- In a plan that names each card once the placement of a card is found. -/
theorem Plan.placementOf?_of_mem {p : Plan} (hn : (p.placements.map Placement.card).Nodup)
    {m : Placement} (hm : m ∈ p.placements) : p.placementOf? m.card = some m := by
  unfold placementOf?
  cases hf : p.placements.find? fun placement => placement.card == m.card with
  | none =>
    have hne := List.find?_eq_none.mp hf m hm
    exact absurd (beq_self_eq_true m.card) hne
  | some m' =>
    have hc : m'.card = m.card := by simpa using List.find?_some hf
    have he : m' = m := List.inj_on_of_nodup_map hn (List.mem_of_find?_eq_some hf) hm hc
    rw [he]

namespace Board

variable {b b' : Board} {today : Date} {select : TextSelector} {plan : Plan} {reorder : Bool}

/-- The ids of the cards are met in the traversal. -/
theorem map_id_traversal (b : Board) : b.traversal.map (fun x => x.2.id) = b.cards.map Card.id := by
  rw [← map_snd_traversal, List.map_map]
  rfl

/-- In a rearranged board each card is in the column it lands in, and in no other. -/
theorem Rearranged.mem_cards_iff {landing : Text → Text → Text}
    (hr : b.Rearranged landing b') (hn : (b.cards.map Card.id).Nodup) {x : Column × Card}
    (hx : x ∈ b.traversal) {c : Column} (hc : c ∈ b'.columns) :
    x.2 ∈ c.cards ↔ landing x.2.id x.1.id = c.id := by
  rw [(hr.landed c hc).mem_iff, cardsWhere, List.mem_map]
  constructor
  · rintro ⟨y, hy, hyx⟩
    obtain ⟨hm, hl⟩ := List.mem_filter.mp hy
    have he : y = x := by
      rw [← map_id_traversal] at hn
      exact List.inj_on_of_nodup_map hn hm hx (congrArg Card.id hyx)
    rw [← he]
    exact beq_iff_eq.mp hl
  · intro hl
    exact ⟨x, List.mem_filter.mpr ⟨hx, beq_iff_eq.mpr hl⟩, rfl⟩

/-- The placement of each card in a fresh plan is found, and sends the card by the
headings. -/
theorem exists_placementOf? (hn : (b.cards.map Card.id).Nodup)
    (hs : b.sort today select = .ok plan) {x : Column × Card} (hx : x ∈ b.traversal) :
    ∃ m, plan.placementOf? x.2.id = some m ∧ m.source = x.1.id ∧
      Sends b.headings (select x.2) today m.target := by
  have hf := forall₂_placements hs
  have hcards : plan.placements.map Placement.card = b.cards.map Card.id := by
    rw [← map_id_traversal]
    exact (map_eq_of_forall₂ (hf.imp fun x m hm => hm.1.symm)).symm
  obtain ⟨m, hm, hcard, hsource, hsends⟩ := exists_of_forall₂_of_mem hf.flip hx
  refine ⟨m, ?_, hsource, hsends⟩
  rw [← hcard]
  exact Plan.placementOf?_of_mem (hcards ▸ hn) hm

/-- A fresh plan lands each card where its placement sends it. -/
theorem landing_eq_of_placementOf? (hn : (b.cards.map Card.id).Nodup)
    (hs : b.sort today select = .ok plan) {x : Column × Card} (hx : x ∈ b.traversal)
    {m : Placement} (hm : plan.placementOf? x.2.id = some m) :
    plan.landing b.columnIds x.2.id x.1.id = m.target.getD x.1.id := by
  obtain ⟨rs, hr, -, -⟩ := sort_eq_ok_iff.mp hs
  obtain ⟨target, ht, hl⟩ := landing_of_sort hn hr hs hx
  obtain ⟨m', hm', -, hsends⟩ := exists_placementOf? hn hs hx
  obtain ⟨hh, hread⟩ := headings_of_ruledColumns hr
  have htarget : target = m'.target := (hh ▸ sends_of_targetId? hread ht).unique hsends
  rw [hm, Option.some.injEq] at hm'
  rw [hl, htarget, hm']

/-- A board with the headings and the cards of another, in which each card is in one of the
columns, the one where its placement in a plan sends it, or where it was if it has no target. -/
structure Realises (b' b : Board) (plan : Plan) : Prop where
  headings : b'.headings = b.headings
  cards : b'.cards.Perm b.cards
  placed : ∀ x ∈ b.traversal, ∃ m, plan.placementOf? x.2.id = some m ∧
    (∃ c ∈ b'.columns, x.2 ∈ c.cards) ∧
    ∀ c ∈ b'.columns, x.2 ∈ c.cards ↔ c.id = m.target.getD x.1.id

/-- Applying a fresh plan realises it. -/
theorem realises_of_apply (hc : b.columnIds.Nodup) (hn : (b.cards.map Card.id).Nodup)
    (hs : b.sort today select = .ok plan) (ha : b.apply plan select reorder = .ok b') :
    b'.Realises b plan := by
  have hr := rearranged_of_apply ha
  have hp := cards_perm_of_apply ha hc
  refine ⟨hr.columns, hp, fun x hx => ?_⟩
  have hx' : x.2 ∈ b'.cards := by
    rw [hp.mem_iff, ← map_snd_traversal]
    exact List.mem_map_of_mem hx
  obtain ⟨m, hm, -, -⟩ := exists_placementOf? hn hs hx
  refine ⟨m, hm, List.mem_flatMap.mp hx', fun c hcm => ?_⟩
  rw [hr.mem_cards_iff hn hx hcm, landing_eq_of_placementOf? hn hs hx hm, eq_comm]

/-- A board that a fresh plan was applied to gets a plan without moves. -/
theorem exists_sort_without_moves (hn : (b.cards.map Card.id).Nodup)
    (hs : b.sort today select = .ok plan) (ha : b.apply plan select reorder = .ok b') :
    ∃ plan', b'.sort today select = .ok plan' ∧ plan'.moves = [] := by
  obtain ⟨rs, hr, -, -⟩ := sort_eq_ok_iff.mp hs
  obtain ⟨rs', hr', hrs⟩ := exists_ruledColumns hr (rearranged_of_apply ha).columns
  refine exists_sort_of_settled hr' (fun y hy => ?_)
  obtain ⟨target, ht, hg⟩ := target_of_apply hn hr hs ha hy
  exact ⟨target, (targetId?_congr hrs _ today).symm.trans ht, hg⟩

/-- Boards with the same headings and cards get plans with the same targets. -/
theorem map_target_eq {plan' : Plan} (hn : (b.cards.map Card.id).Nodup)
    (hh : b'.headings = b.headings) (hp : b'.cards.Perm b.cards)
    (hs : b.sort today select = .ok plan) (hs' : b'.sort today select = .ok plan')
    {card : Card} (hcard : card ∈ b.cards) :
    (plan'.placementOf? card.id).map Placement.target =
      (plan.placementOf? card.id).map Placement.target := by
  have hn' : (b'.cards.map Card.id).Nodup := (hp.map Card.id).nodup_iff.mpr hn
  have hcard' : card ∈ b'.cards := hp.mem_iff.mpr hcard
  rw [← map_snd_traversal] at hcard hcard'
  obtain ⟨x, hx, rfl⟩ := List.mem_map.mp hcard
  obtain ⟨y, hy, hyx⟩ := List.mem_map.mp hcard'
  obtain ⟨m, hm, -, hsends⟩ := exists_placementOf? hn hs hx
  obtain ⟨m', hm', -, hsends'⟩ := exists_placementOf? hn' hs' hy
  rw [hyx] at hm' hsends'
  rw [hh] at hsends'
  rw [hm, hm', Option.map_some, Option.map_some, hsends'.unique hsends]

/-- A plan without moves leaves a board as it is that a plan was applied to. -/
theorem apply_of_apply_of_no_moves {plan' : Plan} (hc : b.columnIds.Nodup)
    (ha : b.apply plan select reorder = .ok b') (hm : plan'.moves = []) :
    b'.apply plan' select reorder = .ok b' := by
  rw [← (rearranged_of_apply ha).columnIds_eq] at hc
  refine apply_of_no_moves hm hc (fun c' hc' => ?_)
  obtain ⟨columns, hf, rfl⟩ := apply_eq_ok_iff.mp ha
  obtain ⟨c, -, orders, hread, rfl⟩ := exists_of_forall₂_of_mem hf hc'
  exact ⟨orders, hread, orderAll_orderAll orders select _⟩

/-- A fresh plan settles a board without repeated ids: it can be applied and is realised by
that, so that fixed cards stay in their columns. The next plan has the same targets and no
moves, and leaves the board as it is. -/
theorem sort_apply_settles (hc : b.columnIds.Nodup) (hn : (b.cards.map Card.id).Nodup)
    (hs : b.sort today select = .ok plan) (reorder : Bool) :
    ∃ b', b.apply plan select reorder = .ok b' ∧ b'.Realises b plan ∧
      (∀ x ∈ b.traversal, IsFixed (select x.2) →
        ∀ c ∈ b'.columns, x.2 ∈ c.cards ↔ c.id = x.1.id) ∧
      ∃ plan', b'.sort today select = .ok plan' ∧ plan'.isNoop = true ∧
        (∀ card ∈ b.cards, (plan'.placementOf? card.id).map Placement.target =
          (plan.placementOf? card.id).map Placement.target) ∧
        b'.apply plan' select reorder = .ok b' := by
  obtain ⟨b', ha⟩ := exists_apply_of_sort hs reorder
  have hr := realises_of_apply hc hn hs ha
  obtain ⟨plan', hs', hm⟩ := exists_sort_without_moves hn hs ha
  refine ⟨b', ha, hr, ?_, plan', hs', ?_, ?_, apply_of_apply_of_no_moves hc ha hm⟩
  · intro x hx hfixed c hcm
    obtain ⟨m, hmx, -, hsends⟩ := exists_placementOf? hn hs hx
    obtain ⟨m', hmx', -, hplaced⟩ := hr.placed x hx
    rw [hmx, Option.some.injEq] at hmx'
    have ht : m.target = none := hsends.unique (.stays hfixed)
    rw [hplaced c hcm, ← hmx', ht, Option.getD_none]
  · rw [Plan.isNoop, hm, List.isEmpty_nil]
  · exact fun card hcard => map_target_eq hn hr.headings hr.cards hs hs' hcard

end Board

/-- A board with an ordered fallback column, an ordered gathering column and a card that
is fixed in the wrong place. -/
def rotaBoard : Board where
  columns := [
    ⟨"in".toList, "Inbox #ungathered #sort-byname".toList, [
      ⟨"1".toList, "Call @Reto @2023-06-07".toList, [], false⟩,
      ⟨"2".toList, "Stay @sticky @Reto @2023-06-07".toList, [], false⟩,
      ⟨"3".toList, "No tags".toList, [], true⟩]⟩,
    ⟨"re".toList, "Reto #gather_reto&0<day #sort-bydate".toList, [
      ⟨"4".toList, "Write @reto @2023-06-09".toList, "due soon".toList, false⟩,
      ⟨"5".toList, "Ask @carl".toList, [], false⟩]⟩,
    ⟨"re2".toList, "Late #gather_day<0|anna".toList, []⟩]
  title := "Rota".toList
  header := none
  footer := none

/-- The day of the rota. -/
def rotaDay : Date := ⟨2023, 6, 5, by decide, by decide, by decide⟩

/-- The plan of that day: two cards change places. -/
def rotaPlan : Plan where
  placements := [
    ⟨"1".toList, "in".toList, some "re".toList⟩,
    ⟨"2".toList, "in".toList, none⟩,
    ⟨"3".toList, "in".toList, none⟩,
    ⟨"4".toList, "re".toList, some "re".toList⟩,
    ⟨"5".toList, "re".toList, some "in".toList⟩]
  diagnostics := []

/-- The rota has no repeated ids, is sorted by its plan, and is settled by it. -/
theorem rotaBoard_settled :
    rotaBoard.columnIds.Nodup ∧ (rotaBoard.cards.map Card.id).Nodup ∧
    rotaBoard.sort rotaDay TagSource.title = .ok rotaPlan ∧ rotaPlan.isNoop = false ∧
    ∃ b', rotaBoard.apply rotaPlan TagSource.title true = .ok b' ∧ b'.Realises rotaBoard rotaPlan ∧
      (∀ x ∈ rotaBoard.traversal, IsFixed (TagSource.title.textOf x.2) →
        ∀ c ∈ b'.columns, x.2 ∈ c.cards ↔ c.id = x.1.id) ∧
      ∃ plan', b'.sort rotaDay TagSource.title = .ok plan' ∧ plan'.isNoop = true ∧
        (∀ card ∈ rotaBoard.cards, (plan'.placementOf? card.id).map Placement.target =
          (rotaPlan.placementOf? card.id).map Placement.target) ∧
        b'.apply plan' TagSource.title true = .ok b' := by
  have hc : rotaBoard.columnIds.Nodup := by decide
  have hn : (rotaBoard.cards.map Card.id).Nodup := by decide
  have hs : rotaBoard.sort rotaDay TagSource.title = .ok rotaPlan := by decide +kernel
  exact ⟨hc, hn, hs, by decide, Board.sort_apply_settles hc hn hs true⟩

end GatherBoard
