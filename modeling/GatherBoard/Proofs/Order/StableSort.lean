import Mathlib.Data.List.Basic

/-!
# Stable sorting

A stable sort is determined by what it does: its result is sorted, and
elements that are alike in the order stay in their places among each other.
Sorting by one order and then by another is sorting once by both, the second
one first.
-/

namespace GatherBoard

variable {α : Type}

/-- A test by which lists can be sorted. -/
structure IsSortOrder (le : α → α → Bool) : Prop where
  trans : ∀ a b c, le a b = true → le b c = true → le a c = true
  total : ∀ a b, (le a b || le b a) = true

/-- Neither of two elements has to go first. -/
def alike (le : α → α → Bool) (a x : α) : Bool := le a x && le x a

/-- The first order and, where it has no preference, the second. -/
def thenBy (first second : α → α → Bool) (a b : α) : Bool :=
  first a b && (!first b a || second a b)

namespace IsSortOrder

variable {le first second : α → α → Bool}

/-- Every element is alike with itself. -/
theorem refl (h : IsSortOrder le) (a : α) : le a a = true := by simpa using h.total a a

/-- Elements that are alike with one are in order. -/
theorem le_of_alike (h : IsSortOrder le) {a x y : α} (hx : alike le a x = true)
    (hy : alike le a y = true) : le x y = true := by
  rw [alike, Bool.and_eq_true] at hx hy
  exact h.trans x a y hx.2 hy.1

/-- A result of sorting is in order. -/
theorem pairwise_mergeSort (h : IsSortOrder le) (l : List α) :
    (l.mergeSort le).Pairwise fun a b => le a b = true :=
  List.pairwise_mergeSort h.trans h.total l

/-- Elements that are in order with each other stay in their places. -/
theorem filter_mergeSort (h : IsSortOrder le) {q : α → Bool}
    (hq : ∀ x y, q x = true → q y = true → le x y = true) (l : List α) :
    (l.mergeSort le).filter q = l.filter q := by
  have hp : (l.filter q).Pairwise fun a b => le a b = true := by
    rw [List.pairwise_iff_forall_sublist]
    intro a b hab
    have ha := List.mem_filter.mp (hab.subset (by simp : a ∈ [a, b]))
    have hb := List.mem_filter.mp (hab.subset (by simp : b ∈ [a, b]))
    exact hq a b ha.2 hb.2
  have hs := (List.sublist_mergeSort h.trans h.total hp List.filter_sublist).filter q
  rw [List.filter_filter] at hs
  simp only [Bool.and_self] at hs
  exact (hs.eq_of_length ((List.mergeSort_perm l le).filter q).length_eq.symm).symm

/-- Every element is alike with itself. -/
theorem alike_self (h : IsSortOrder le) (a : α) : alike le a a = true := by
  rw [alike, h.refl a, Bool.and_self]

/-- Where alike elements are the same, all elements are. -/
theorem mem_of_filter_alike (h : IsSortOrder le) {l l' : List α}
    (hf : ∀ a, l.filter (alike le a) = l'.filter (alike le a)) {a : α} (ha : a ∈ l) : a ∈ l' := by
  have hm : a ∈ l.filter (alike le a) := List.mem_filter.mpr ⟨ha, h.alike_self a⟩
  rw [hf a] at hm
  exact (List.mem_filter.mp hm).1

/-- The first element of a list in order goes before all of it. -/
theorem le_of_mem_cons (h : IsSortOrder le) {a x : α} {l : List α}
    (hl : (a :: l).Pairwise fun a b => le a b = true) (hx : x ∈ a :: l) : le a x = true := by
  rcases List.mem_cons.mp hx with rfl | hx
  · exact h.refl x
  · exact List.rel_of_pairwise_cons hl hx

/-- Lists in order are equal if alike elements are in the same places among each
other. -/
theorem eq_of_filter_alike (h : IsSortOrder le) {l l' : List α}
    (hl : l.Pairwise fun a b => le a b = true) (hl' : l'.Pairwise fun a b => le a b = true)
    (hf : ∀ a, l.filter (alike le a) = l'.filter (alike le a)) : l = l' := by
  induction l generalizing l' with
  | nil =>
    refine (List.eq_nil_iff_forall_not_mem.mpr (fun b hb => ?_)).symm
    exact List.not_mem_nil (h.mem_of_filter_alike (fun a => (hf a).symm) hb)
  | cons a l ih =>
    have ha : a ∈ l' := h.mem_of_filter_alike hf List.mem_cons_self
    obtain ⟨b, l', rfl⟩ := List.exists_cons_of_ne_nil (List.ne_nil_of_mem ha)
    have hb : b ∈ a :: l := h.mem_of_filter_alike (fun a => (hf a).symm) List.mem_cons_self
    -- neither head goes before the other, so they are alike and the same
    have hab := h.le_of_mem_cons hl hb
    have hba := h.le_of_mem_cons hl' ha
    have he := hf a
    rw [List.filter_cons_of_pos (h.alike_self a),
      List.filter_cons_of_pos (by rw [alike, hab, hba, Bool.and_self]), List.cons.injEq] at he
    obtain ⟨rfl, -⟩ := he
    refine congrArg (a :: ·) (ih hl.of_cons hl'.of_cons (fun c => ?_))
    have hc := hf c
    by_cases hca : alike le c a = true
    · rw [List.filter_cons_of_pos hca, List.filter_cons_of_pos hca, List.cons.injEq] at hc
      exact hc.2
    · rwa [List.filter_cons_of_neg hca, List.filter_cons_of_neg hca] at hc

/-- If the elements of one kind are after the others in a list, they can be put after the others in
the sorted list as well: sorting brings all of them back. -/
theorem mergeSort_filter_append_filter (h : IsSortOrder le) {q : α → Bool} {l l' : List α}
    (hl : ∀ a ∈ l, q a = false) (hl' : ∀ a ∈ l', q a = true) :
    (((l ++ l').mergeSort le).filter (fun a => !q a) ++ ((l ++ l').mergeSort le).filter q).mergeSort
      le = (l ++ l').mergeSort le := by
  have hfilter : (l ++ l').filter q = l' := by
    rw [List.filter_append, List.filter_eq_nil_iff.mpr fun a ha => by rw [hl a ha]; decide,
      List.filter_eq_self.mpr hl', List.nil_append]
  have hfilter' : ((l ++ l').filter fun a => !q a) = l := by
    rw [List.filter_append, List.filter_eq_self.mpr fun a ha => by rw [hl a ha, Bool.not_false],
      List.filter_eq_nil_iff.mpr fun a ha => by rw [hl' a ha]; decide, List.append_nil]
  refine h.eq_of_filter_alike (h.pairwise_mergeSort _) (h.pairwise_mergeSort _) fun a => ?_
  have hsame (l : List α) : (l.mergeSort le).filter (alike le a) = l.filter (alike le a) :=
    h.filter_mergeSort (fun x y => h.le_of_alike) l
  have hsort (r : α → Bool) : (((l ++ l').mergeSort le).filter r).filter (alike le a) =
      ((l ++ l').filter r).filter (alike le a) := by
    rw [List.filter_comm, hsame, List.filter_comm]
  rw [hsame, hsame, List.filter_append, hsort, hsort, hfilter, hfilter', List.filter_append]

/-- An order refined by another is an order. -/
theorem thenBy (h₁ : IsSortOrder first) (h₂ : IsSortOrder second) :
    IsSortOrder (thenBy first second) := by
  constructor
  · intro a b c hab hbc
    simp only [GatherBoard.thenBy, Bool.and_eq_true, Bool.or_eq_true, Bool.not_eq_true'] at *
    refine ⟨h₁.trans a b c hab.1 hbc.1, ?_⟩
    by_cases hca : first c a = true
    · have hba : first b a = true := h₁.trans b c a hbc.1 hca
      have hcb : first c b = true := h₁.trans c a b hca hab.1
      right
      exact h₂.trans a b c (hab.2.resolve_left (by simp [hba])) (hbc.2.resolve_left (by simp [hcb]))
    · left
      simpa using hca
  · intro a b
    have h1 := h₁.total a b
    have h2 := h₂.total a b
    unfold GatherBoard.thenBy
    revert h1 h2
    cases first a b <;> cases first b a <;> cases second a b <;> simp

/-- What is alike in an order refined by another is alike in both. -/
theorem alike_of_alike_thenBy {a x : α} (ha : alike (GatherBoard.thenBy first second) a x = true) :
    alike first a x = true ∧ alike second a x = true := by
  simp only [alike, GatherBoard.thenBy, Bool.and_eq_true, Bool.or_eq_true,
    Bool.not_eq_true'] at ha ⊢
  obtain ⟨⟨h1, h2⟩, h3, h4⟩ := ha
  simp [h1, h3] at h2 h4
  exact ⟨⟨h1, h3⟩, h2, h4⟩

/-- After sorting by two orders in turn all is in order by the later one, refined by
the earlier one. -/
theorem pairwise_mergeSort_mergeSort (h₁ : IsSortOrder first) (h₂ : IsSortOrder second)
    (l : List α) : ((l.mergeSort second).mergeSort first).Pairwise fun a b =>
      GatherBoard.thenBy first second a b = true := by
  rw [List.pairwise_iff_forall_sublist]
  intro a b hab
  have hf := List.pairwise_iff_forall_sublist.mp (h₁.pairwise_mergeSort (l.mergeSort second)) hab
  unfold GatherBoard.thenBy
  by_cases hba : first b a = true
  · -- a tie: the two stand as the order before has left them
    have hs := hab.filter (alike first a)
    rw [h₁.filter_mergeSort (fun x y => h₁.le_of_alike)] at hs
    have ht : [a, b].filter (alike first a) = [a, b] := by simp [alike, hf, hba, h₁.refl a]
    rw [ht] at hs
    have h2 := List.pairwise_iff_forall_sublist.mp (h₂.pairwise_mergeSort l)
      (hs.trans List.filter_sublist)
    simp [hf, h2]
  · simp [hf, hba]

/-- Sorting by two orders in turn is sorting once, the later order first. -/
theorem mergeSort_mergeSort (h₁ : IsSortOrder first) (h₂ : IsSortOrder second) (l : List α) :
    (l.mergeSort second).mergeSort first = l.mergeSort (GatherBoard.thenBy first second) := by
  have h := h₁.thenBy h₂
  refine h.eq_of_filter_alike (h₁.pairwise_mergeSort_mergeSort h₂ l) (h.pairwise_mergeSort l)
    (fun a => ?_)
  have h1 (x y : α) (hx : alike (GatherBoard.thenBy first second) a x = true)
      (hy : alike (GatherBoard.thenBy first second) a y = true) : first x y = true :=
    h₁.le_of_alike (alike_of_alike_thenBy hx).1 (alike_of_alike_thenBy hy).1
  have h2 (x y : α) (hx : alike (GatherBoard.thenBy first second) a x = true)
      (hy : alike (GatherBoard.thenBy first second) a y = true) : second x y = true :=
    h₂.le_of_alike (alike_of_alike_thenBy hx).2 (alike_of_alike_thenBy hy).2
  rw [h.filter_mergeSort (fun x y => h.le_of_alike), h₁.filter_mergeSort h1, h₂.filter_mergeSort h2]

end IsSortOrder

/-- All of some orders, the last of them first. -/
def inTurn : List (α → α → Bool) → α → α → Bool
  | [], _, _ => true
  | le :: les, a, b => thenBy (inTurn les) le a b

/-- Orders in turn are an order. -/
theorem isSortOrder_inTurn {les : List (α → α → Bool)} (h : ∀ le ∈ les, IsSortOrder le) :
    IsSortOrder (inTurn les) := by
  induction les with
  | nil => exact ⟨fun _ _ _ _ _ => rfl, fun _ _ => rfl⟩
  | cons le les ih =>
    exact (ih (fun le' hm => h le' (List.mem_cons_of_mem _ hm))).thenBy (h le List.mem_cons_self)

/-- Sorting by some orders in turn is sorting once, the last order first. -/
theorem foldl_mergeSort {les : List (α → α → Bool)} (h : ∀ le ∈ les, IsSortOrder le) (l : List α) :
    les.foldl (fun l le => l.mergeSort le) l = l.mergeSort (inTurn les) := by
  induction les generalizing l with
  | nil =>
    exact (List.mergeSort_of_pairwise (List.pairwise_of_forall (fun _ _ => rfl))).symm
  | cons le les ih =>
    have hles : ∀ le' ∈ les, IsSortOrder le' := fun le' hm => h le' (List.mem_cons_of_mem _ hm)
    rw [List.foldl_cons, ih hles,
      (isSortOrder_inTurn hles).mergeSort_mergeSort (h le List.mem_cons_self)]
    rfl

end GatherBoard
