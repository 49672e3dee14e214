import GatherBoard.Proofs.Board.Landing
import Mathlib.Data.List.Nodup
import Mathlib.Data.List.Perm.Basic

/-!
# Rearranged boards

A board is a rearrangement of another if it has the same columns around the
same cards, and each card is in the column that a rule on ids names. Cards are
neither lost nor duplicated by that, and rearrangements can be composed.
-/

namespace GatherBoard

variable {α κ : Type}

/-- Elements that are put into buckets by their keys are neither lost nor
duplicated. -/
theorem flatMap_filter_perm [BEq κ] [LawfulBEq κ] {keys : List κ} (hk : keys.Nodup) {key : α → κ}
    {l : List α} (h : ∀ a ∈ l, key a ∈ keys) :
    (keys.flatMap fun k => l.filter fun a => key a == k).Perm l := by
  induction keys generalizing l with
  | nil =>
    have hl : l = [] := List.eq_nil_iff_forall_not_mem.mpr (fun a ha => by simpa using h a ha)
    rw [hl]
    exact .nil
  | cons k keys ih =>
    obtain ⟨hn, hk⟩ := List.nodup_cons.mp hk
    have hrest : ∀ a ∈ l.filter (fun a => !(key a == k)), key a ∈ keys := by
      intro a ha
      obtain ⟨hm, hne⟩ := List.mem_filter.mp ha
      exact (List.mem_cons.mp (h a hm)).resolve_left (by simpa using hne)
    have hsame : (keys.flatMap fun k' => l.filter fun a => key a == k') =
        keys.flatMap fun k' => (l.filter fun a => !(key a == k)).filter fun a => key a == k' := by
      refine List.flatMap_congr (fun k' hk' => ?_)
      rw [List.filter_filter]
      refine List.filter_congr (fun a _ => ?_)
      by_cases ha : key a = k'
      · have hne : k' ≠ k := fun he => hn (he ▸ hk')
        simp [ha, hne]
      · simp [ha]
    rw [List.flatMap_cons, hsame]
    exact ((ih hk hrest).append_left _).trans (List.filter_append_perm _ l)

/-- Two filters that exclude each other share the elements of both. -/
theorem filter_append_filter_perm {p q : α → Bool} {l : List α}
    (h : ∀ a ∈ l, p a = true → q a = false) :
    (l.filter p ++ l.filter q).Perm (l.filter fun a => p a || q a) := by
  have hp : (l.filter fun a => p a || q a).filter p = l.filter p := by
    rw [List.filter_filter]
    refine List.filter_congr (fun a _ => ?_)
    cases p a <;> simp
  have hq : ((l.filter fun a => p a || q a).filter fun a => !p a) = l.filter q := by
    rw [List.filter_filter]
    refine List.filter_congr (fun a ha => ?_)
    cases hpa : p a with
    | false => simp
    | true => simp [h a ha hpa]
  have hperm := List.filter_append_perm p (l.filter fun a => p a || q a)
  rwa [hp, hq] at hperm

namespace Board

/-- The ids of the columns. -/
def columnIds (b : Board) : List Text := b.columns.map Column.id

/-- Boards with columns of the same ids and titles have the same column ids. -/
theorem columnIds_eq_of_map_eq {b b' : Board}
    (h : (b'.columns.map fun c => (c.id, c.title)) = b.columns.map fun c => (c.id, c.title)) :
    b'.columnIds = b.columnIds := by
  have hc := congrArg (List.map Prod.fst) h
  rwa [List.map_map, List.map_map] at hc

/-- The cards that a rule on their id and that of their column selects, in board
order. -/
def cardsWhere (b : Board) (keep : Text → Text → Bool) : List Card :=
  (b.traversal.filter fun x => keep x.2.id x.1.id).map Prod.snd

/-- The cards that are selected are found column by column. -/
theorem cardsWhere_eq_flatMap (b : Board) (keep : Text → Text → Bool) :
    b.cardsWhere keep = b.columns.flatMap fun c => c.cards.filter fun card => keep card.id c.id := by
  unfold cardsWhere traversal
  rw [List.filter_flatMap, List.map_flatMap]
  refine List.flatMap_congr (fun c _ => ?_)
  rw [List.filter_map, List.map_map]
  exact List.map_id _

/-- All cards of a board are met in its traversal. -/
theorem map_snd_traversal (b : Board) : b.traversal.map Prod.snd = b.cards := by
  unfold traversal cards
  rw [List.map_flatMap]
  refine List.flatMap_congr (fun c _ => ?_)
  rw [List.map_map]
  exact List.map_id _

/-- Every card of the traversal is in a column of the board. -/
theorem id_mem_of_mem_traversal {b : Board} {x : Column × Card} (h : x ∈ b.traversal) :
    x.1.id ∈ b.columnIds := by
  obtain ⟨c, hc, hx⟩ := List.mem_flatMap.mp h
  obtain ⟨card, -, rfl⟩ := List.mem_map.mp hx
  exact List.mem_map_of_mem hc

/-- The cards that have a column for their home are those of the column. -/
theorem cardsWhere_home {b : Board} (hn : b.columnIds.Nodup) {c : Column} (hc : c ∈ b.columns) :
    b.cardsWhere (fun _ home => home == c.id) = c.cards := by
  rw [cardsWhere_eq_flatMap]
  obtain ⟨before, after, hs⟩ := List.append_of_mem hc
  have hb : ∀ d ∈ before ++ after, (d.id == c.id) = false := by
    intro d hd
    unfold columnIds at hn
    rw [hs, List.map_append, List.map_cons, List.nodup_middle, List.nodup_cons,
      ← List.map_append] at hn
    rw [beq_eq_false_iff_ne]
    exact fun he => hn.1 (he ▸ List.mem_map_of_mem hd)
  have hnone (ds : List Column) (hds : ∀ d ∈ ds, (d.id == c.id) = false) :
      (ds.flatMap fun d => d.cards.filter fun _ => d.id == c.id) = [] := by
    rw [List.flatMap_eq_nil_iff]
    intro d hd
    simp [hds d hd]
  rw [hs, List.flatMap_append, List.flatMap_cons,
    hnone before (fun d hd => hb d (List.mem_append_left _ hd)),
    hnone after (fun d hd => hb d (List.mem_append_right _ hd))]
  simp

/-- A board with the same columns and the same cards, each where a rule on its id
and that of its column puts it. -/
structure Rearranged (b : Board) (landing : Text → Text → Text) (b' : Board) : Prop where
  title : b'.title = b.title
  header : b'.header = b.header
  footer : b'.footer = b.footer
  columns : (b'.columns.map fun c => (c.id, c.title)) = b.columns.map fun c => (c.id, c.title)
  landed : ∀ c ∈ b'.columns, c.cards.Perm (b.cardsWhere fun card home => landing card home == c.id)

namespace Rearranged

variable {b b' b'' : Board} {landing landing' : Text → Text → Text}

/-- A rearranged board has the columns of before. -/
theorem columnIds_eq (h : b.Rearranged landing b') : b'.columnIds = b.columnIds :=
  columnIds_eq_of_map_eq h.columns

/-- Each card of a rearranged board is where a card of the board before has landed. -/
theorem exists_of_mem_traversal (h : b.Rearranged landing b') {y : Column × Card}
    (hy : y ∈ b'.traversal) :
    ∃ x ∈ b.traversal, x.2 = y.2 ∧ landing x.2.id x.1.id = y.1.id := by
  obtain ⟨c, hc, hy⟩ := List.mem_flatMap.mp hy
  obtain ⟨card, hcard, rfl⟩ := List.mem_map.mp hy
  obtain ⟨x, hx, rfl⟩ := List.mem_map.mp ((h.landed c hc).subset hcard)
  obtain ⟨hx, hl⟩ := List.mem_filter.mp hx
  exact ⟨x, hx, rfl, beq_iff_eq.mp hl⟩

/-- Cards that are sorted out by where they land are all there. -/
theorem flatMap_cardsWhere_perm (hn : b'.columnIds.Nodup) (keep : Text → Text → Bool)
    (hl : ∀ card, ∀ home ∈ b.columnIds, landing card home ∈ b'.columnIds) :
    (b'.columns.flatMap fun c =>
      b.cardsWhere fun card home => keep card home && landing card home == c.id).Perm
      (b.cardsWhere keep) := by
  have hm : ∀ x ∈ b.traversal.filter (fun x => keep x.2.id x.1.id),
      landing x.2.id x.1.id ∈ b'.columnIds :=
    fun x hx => hl _ _ (id_mem_of_mem_traversal (List.mem_filter.mp hx).1)
  have hp := (flatMap_filter_perm hn hm).map Prod.snd
  unfold columnIds at hp
  rw [List.flatMap_map, List.map_flatMap] at hp
  refine .trans (.of_eq (List.flatMap_congr (fun c _ => ?_))) hp
  rw [cardsWhere, List.filter_filter]
  congr 1
  refine List.filter_congr (fun x _ => ?_)
  rw [Bool.and_comm]

/-- Rearranging loses and duplicates no card. -/
theorem cards_perm (h : b.Rearranged landing b') (hn : b.columnIds.Nodup)
    (hl : ∀ card, ∀ home ∈ b.columnIds, landing card home ∈ b.columnIds) :
    b'.cards.Perm b.cards := by
  have hp : b'.cards.Perm (b'.columns.flatMap fun c =>
      b.cardsWhere fun card home => true && landing card home == c.id) :=
    List.Perm.flatMap_left _ (fun c hc => by simpa using h.landed c hc)
  rw [← h.columnIds_eq] at hn hl
  refine hp.trans ((flatMap_cardsWhere_perm hn (fun _ _ => true) (h.columnIds_eq ▸ hl)).trans ?_)
  rw [cardsWhere, List.filter_eq_self.mpr (fun _ _ => rfl), map_snd_traversal]

/-- A board is a rearrangement of itself. -/
theorem refl (hn : b.columnIds.Nodup) : b.Rearranged (fun _ home => home) b :=
  ⟨rfl, rfl, rfl, rfl, fun _ hc => .of_eq (cardsWhere_home hn hc).symm⟩

/-- Rearranging twice is rearranging. -/
theorem trans (h : b.Rearranged landing b') (h' : b'.Rearranged landing' b'')
    (hn : b.columnIds.Nodup) (hl : ∀ card, ∀ home ∈ b.columnIds, landing card home ∈ b.columnIds) :
    b.Rearranged (fun card home => landing' card (landing card home)) b'' := by
  refine ⟨h'.title.trans h.title, h'.header.trans h.header, h'.footer.trans h.footer,
    h'.columns.trans h.columns, fun c hc => (h'.landed c hc).trans ?_⟩
  rw [cardsWhere_eq_flatMap]
  have hp : (b'.columns.flatMap fun d => d.cards.filter fun card => landing' card.id d.id == c.id).Perm
      (b'.columns.flatMap fun d => b.cardsWhere fun card home =>
        landing' card (landing card home) == c.id && landing card home == d.id) := by
    refine List.Perm.flatMap_left _ (fun d hd => ((h.landed d hd).filter _).trans (.of_eq ?_))
    rw [cardsWhere, List.filter_map, List.filter_filter, cardsWhere]
    congr 1
    refine List.filter_congr (fun x _ => ?_)
    rw [Function.comp_apply]
    by_cases hx : landing x.2.id x.1.id = d.id
    · rw [hx]
    · have hf : (landing x.2.id x.1.id == d.id) = false := by simpa using hx
      rw [hf, Bool.and_false, Bool.and_false]
  refine hp.trans (flatMap_cardsWhere_perm (h.columnIds_eq ▸ hn) _ ?_)
  rw [h.columnIds_eq]
  exact hl

end Rearranged

end Board

end GatherBoard
