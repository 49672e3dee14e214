import GatherBoard.Apply

/-!
# Where cards land

Of all the placements of a card only the last that moves it counts, and only
if it leads to a column of the board. Otherwise the card stays in its column.
-/

namespace GatherBoard

/-- The last move of a card leads to a target. -/
def Plan.LastMove (p : Plan) (card target : Text) : Prop :=
  ∃ before move after, p.placements = before ++ move :: after ∧
    (move.card = card ∧ move.isMove = true ∧ move.target = some target) ∧
    ∀ later ∈ after, later.card = card → later.isMove = false

/-- Where a card of the column `home` is after a plan, on a board with the given
columns. -/
inductive Plan.Lands (p : Plan) (ids : List Text) (card home : Text) : Text → Prop
  /-- The last move of the card leads to a column of the board. -/
  | moved {target : Text} (last : p.LastMove card target) (known : target ∈ ids) :
    Lands p ids card home target
  /-- The card has no last move, or it leads to no column of the board. -/
  | stayed (unmoved : ∀ target, p.LastMove card target → target ∉ ids) :
    Lands p ids card home home

/-- Where a card of the column `home` is after some plans. -/
inductive LandsAfter (ids : List Text) (card : Text) : List Plan → Text → Text → Prop
  /-- Without a plan it stays. -/
  | nil (home : Text) : LandsAfter ids card [] home home
  /-- The next plan finds it where the one before has left it. -/
  | cons {p : Plan} {ps : List Plan} {home next last : Text} (first : p.Lands ids card home next)
    (rest : LandsAfter ids card ps next last) : LandsAfter ids card (p :: ps) home last

/-- The column in which a plan leaves a card. -/
def Plan.landing (p : Plan) (ids : List Text) (card home : Text) : Text :=
  ((p.destination? card).filter fun target => decide (target ∈ ids)).getD home

/-- The column in which some plans leave a card. -/
def landingAfter (ids : List Text) (card : Text) (ps : List Plan) (home : Text) : Text :=
  ps.foldl (fun home p => p.landing ids card home) home

/-- A move leads somewhere. -/
theorem Placement.exists_target {move : Placement} (h : move.isMove = true) :
    ∃ target, move.target = some target := by
  unfold Placement.isMove at h
  cases ht : move.target with
  | none => simp [ht] at h
  | some target => exact ⟨target, rfl⟩

/-- The destination of a card is where its last move leads. -/
theorem Plan.destination?_eq_some_iff {p : Plan} {card target : Text} :
    p.destination? card = some target ↔ p.LastMove card target := by
  have hf : p.moves.reverse.find? (fun move => move.card == card) =
      p.placements.reverse.find? fun move => move.isMove && move.card == card := by
    rw [Plan.moves, ← List.filter_reverse, List.find?_filter]
    simp only [Bool.decide_and, Bool.decide_eq_true]
  unfold Plan.destination? Plan.LastMove
  rw [hf, Option.bind_eq_some_iff]
  constructor
  · rintro ⟨move, hm, ht⟩
    obtain ⟨hp, after, before, hs, hl⟩ := List.find?_eq_some_iff_append.mp hm
    rw [Bool.and_eq_true, beq_iff_eq] at hp
    refine ⟨before.reverse, move, after.reverse, ?_, ⟨hp.2, hp.1, ht⟩, fun later hlater hc => ?_⟩
    · rw [← List.reverse_reverse p.placements, hs]
      simp
    · have hn := hl later (List.mem_reverse.mp hlater)
      simpa [hc] using hn
  · rintro ⟨before, move, after, hs, ⟨hc, hm, ht⟩, hl⟩
    refine ⟨move, List.find?_eq_some_iff_append.mpr ⟨by simp [hc, hm], after.reverse,
      before.reverse, by simp [hs], fun later hlater => ?_⟩, ht⟩
    by_cases hlc : later.card = card
    · simp [hl later (List.mem_reverse.mp hlater) hlc]
    · simp [hlc]

/-- A card with a last move to a column of the board is left there. -/
theorem Plan.landing_of_moved {p : Plan} {ids : List Text} {card target : Text}
    (hl : p.LastMove card target) (hk : target ∈ ids) (home : Text) :
    p.landing ids card home = target := by
  unfold landing
  rw [destination?_eq_some_iff.mpr hl]
  simp only [Option.filter_some, hk, decide_true, ↓reduceIte, Option.getD_some]

/-- A card without a last move to a column of the board is left where it is. -/
theorem Plan.landing_of_stayed {p : Plan} {ids : List Text} {card : Text}
    (h : ∀ target, p.LastMove card target → target ∉ ids) (home : Text) :
    p.landing ids card home = home := by
  unfold landing
  cases hd : p.destination? card with
  | none => rfl
  | some target =>
    have hn := h target (destination?_eq_some_iff.mp hd)
    simp only [Option.filter_some, hn, decide_false, Bool.false_eq_true, ↓reduceIte,
      Option.getD_none]

/-- A plan leaves a card where its last move lands it. -/
theorem Plan.lands_landing (p : Plan) (ids : List Text) (card home : Text) :
    p.Lands ids card home (p.landing ids card home) := by
  by_cases h : ∃ target, p.LastMove card target ∧ target ∈ ids
  · obtain ⟨target, hl, hk⟩ := h
    rw [landing_of_moved hl hk]
    exact .moved hl hk
  · have hs : ∀ target, p.LastMove card target → target ∉ ids :=
      fun target hl hk => h ⟨target, hl, hk⟩
    rw [landing_of_stayed hs]
    exact .stayed hs

/-- A plan leaves each card in one column. -/
theorem Plan.lands_iff {p : Plan} {ids : List Text} {card home c : Text} :
    p.Lands ids card home c ↔ p.landing ids card home = c := by
  constructor
  · rintro (⟨hl, hk⟩ | hs)
    · exact landing_of_moved hl hk home
    · exact landing_of_stayed hs home
  · rintro rfl
    exact p.lands_landing ids card home

/-- Some plans leave each card in one column. -/
theorem landsAfter_iff {ids : List Text} {card : Text} {ps : List Plan} {home c : Text} :
    LandsAfter ids card ps home c ↔ landingAfter ids card ps home = c := by
  induction ps generalizing home with
  | nil =>
    constructor
    · rintro ⟨⟩
      rfl
    · rintro rfl
      exact .nil home
  | cons p ps ih =>
    constructor
    · rintro (_ | ⟨first, rest⟩)
      rw [Plan.lands_iff] at first
      rw [landingAfter, List.foldl_cons, first]
      exact ih.mp rest
    · intro h
      exact .cons (p.lands_landing ids card home) (ih.mpr h)

/-- Where a plan leaves a card can be computed. -/
instance (p : Plan) (ids : List Text) (card home c : Text) : Decidable (p.Lands ids card home c) :=
  decidable_of_iff _ Plan.lands_iff.symm

/-- Where some plans leave a card can be computed. -/
instance (ids : List Text) (card : Text) (ps : List Plan) (home c : Text) :
    Decidable (LandsAfter ids card ps home c) :=
  decidable_of_iff _ landsAfter_iff.symm

/-- A card of the board stays on the board. -/
theorem Plan.Lands.mem {p : Plan} {ids : List Text} {card home c : Text}
    (h : p.Lands ids card home c) (hm : home ∈ ids) : c ∈ ids := by
  cases h with
  | moved last known => exact known
  | stayed unmoved => exact hm

/-- The column in which a plan leaves a card of the board is on the board. -/
theorem Plan.landing_mem {ids : List Text} {home : Text} (h : home ∈ ids) (p : Plan) (card : Text) :
    p.landing ids card home ∈ ids := (p.lands_landing ids card home).mem h

/-- The column in which some plans leave a card of the board is on the board. -/
theorem landingAfter_mem {ids : List Text} {home : Text} (h : home ∈ ids) (ps : List Plan)
    (card : Text) : landingAfter ids card ps home ∈ ids := by
  induction ps generalizing home with
  | nil => exact h
  | cons p ps ih => exact ih (Plan.landing_mem h p card)

end GatherBoard
