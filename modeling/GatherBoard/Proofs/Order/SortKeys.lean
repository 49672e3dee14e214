import GatherBoard.Proofs.Calendar.DayCount
import GatherBoard.Proofs.Order.CardOrders
import Mathlib.Data.List.Dedup
import Mathlib.Data.List.Lex

/-!
# Sorting by keys

A stable sort by keys leaves elements with equal keys in their places among each other, and only
one list is the result of it. Putting cards in some orders in turn is the stable sort by all the
keys of the cards, the key of the last order first. So an order that comes again later need not
be looked at.
-/

namespace GatherBoard

section Sorting

variable {α κ : Type}

/-- A test by which lists can be sorted compares elements by their keys. -/
structure ComparesBy (before : κ → κ → Prop) (key : α → κ) (le : α → α → Bool) : Prop where
  order : IsSortOrder le
  le_iff : ∀ a b, le a b = true ↔ ¬ before (key b) (key a)
  alike_iff : ∀ a b, alike le a b = true ↔ key a = key b

variable {before : κ → κ → Prop} {key : α → κ} {le : α → α → Bool} {l sorted : List α}

/-- Two lists of one length and a further element each are in the order of the lists or, if these
are equal, in that of the elements. -/
theorem lex_append_singleton {as bs : List κ} (h : as.length = bs.length) (a b : κ) :
    List.Lex before (as ++ [a]) (bs ++ [b]) ↔ List.Lex before as bs ∨ as = bs ∧ before a b := by
  induction as generalizing bs with
  | nil =>
    obtain rfl : bs = [] := List.eq_nil_of_length_eq_zero h.symm
    simp [List.cons_lex_cons_iff]
  | cons x as ih =>
    cases bs with
    | nil => cases h
    | cons y bs =>
      have hlength : as.length = bs.length := Nat.succ.inj h
      rw [List.cons_append, List.cons_append, List.cons_lex_cons_iff, List.cons_lex_cons_iff,
        ih hlength, List.cons.injEq, and_or_left, and_assoc, or_assoc]

/-- What is alike in two orders is alike in the first refined by the second. -/
theorem alike_thenBy {first second : α → α → Bool} {a b : α} (h₁ : alike first a b = true)
    (h₂ : alike second a b = true) : alike (thenBy first second) a b = true := by
  rw [alike, Bool.and_eq_true] at h₁ h₂
  simp [alike, thenBy, h₁.1, h₁.2, h₂.1, h₂.2]

/-- Comparing by keys and, where they are equal, by one more key is comparing by all of them. -/
theorem ComparesBy.thenBy {first second : α → α → Bool} {keys : α → List κ}
    (h₁ : ComparesBy (List.Lex before) keys first) (h₂ : ComparesBy before key second)
    (hlength : ∀ a b, (keys a).length = (keys b).length) :
    ComparesBy (List.Lex before) (fun a => keys a ++ [key a]) (thenBy first second) where
  order := h₁.order.thenBy h₂.order
  le_iff a b := by
    rw [lex_append_singleton (hlength b a), GatherBoard.thenBy, Bool.and_eq_true, Bool.or_eq_true,
      Bool.not_eq_true', ← Bool.not_eq_true, h₂.le_iff, not_or, not_and, h₁.le_iff a b]
    refine and_congr_right fun hab => ?_
    have hequal : first b a = true ↔ keys b = keys a := by
      rw [← h₁.alike_iff b a, alike, (h₁.le_iff a b).mpr hab, Bool.and_true]
    rw [hequal, imp_iff_not_or]
  alike_iff a b := by
    have hboth : alike (GatherBoard.thenBy first second) a b = true ↔
        alike first a b = true ∧ alike second a b = true :=
      ⟨IsSortOrder.alike_of_alike_thenBy, fun h => alike_thenBy h.1 h.2⟩
    rw [hboth, h₁.alike_iff, h₂.alike_iff]
    constructor
    · rintro ⟨hkeys, hkey⟩
      rw [hkeys, hkey]
    · intro h
      obtain ⟨hkeys, hkey⟩ := List.append_inj' h rfl
      exact ⟨hkeys, List.singleton_inj.mp hkey⟩

variable [DecidableEq κ]

/-- A list with the elements of another in the order of their keys, elements with equal keys in
their places among each other. -/
structure IsStableSort (before : κ → κ → Prop) (key : α → κ) (l sorted : List α) : Prop where
  perm : sorted.Perm l
  ordered : sorted.Pairwise fun a b => ¬ before (key b) (key a)
  stable : ∀ k, sorted.filter (fun a => key a = k) = l.filter fun a => key a = k

/-- Sorting by a test that compares keys is a stable sort by the keys. -/
theorem ComparesBy.isStableSort_mergeSort (h : ComparesBy before key le) (l : List α) :
    IsStableSort before key l (l.mergeSort le) where
  perm := List.mergeSort_perm l le
  ordered := (h.order.pairwise_mergeSort l).imp fun hab => (h.le_iff _ _).mp hab
  stable k := by
    refine h.order.filter_mergeSort (fun x y hx hy => ?_) l
    rw [decide_eq_true_iff] at hx hy
    have halike : alike le x y = true := (h.alike_iff x y).mpr (hx.trans hy.symm)
    rw [alike, Bool.and_eq_true] at halike
    exact halike.1

/-- There is no other stable sort by the keys. -/
theorem ComparesBy.eq_mergeSort (h : ComparesBy before key le)
    (hs : IsStableSort before key l sorted) : sorted = l.mergeSort le := by
  have hordered : sorted.Pairwise fun a b => le a b = true :=
    hs.ordered.imp fun hab => (h.le_iff _ _).mpr hab
  refine h.order.eq_of_filter_alike hordered (h.order.pairwise_mergeSort l) fun a => ?_
  have hkey : alike le a = fun x => decide (key x = key a) := by
    funext x
    rw [Bool.eq_iff_iff, h.alike_iff, decide_eq_true_iff, eq_comm]
  rw [hkey, hs.stable, (h.isStableSort_mergeSort l).stable]

end Sorting

/-- What an order of cards looks at: the due date, or the title without regard to case. -/
inductive SortKey where
  | due (date : Option Date)
  | name (folded : Text)
  deriving DecidableEq

/-- One key goes before another of its kind: an earlier date, any date before none, and the title
that is first by the codes of its characters. -/
def SortKey.Before : SortKey → SortKey → Prop
  | .due (some a), .due (some b) => a.Before b
  | .due (some _), .due none => True
  | .name s, .name t => s < t
  | _, _ => False

namespace CardOrder

/-- The key of a card in an order. -/
def key (order : CardOrder) (select : TextSelector) (c : Card) : SortKey :=
  match order with
  | .byDate => .due (select.factsOf c).dueDate
  | .byName => .name (Text.fold c.title)

/-- The keys of a card in some orders, that of the last order first. -/
def keys (orders : List CardOrder) (select : TextSelector) (c : Card) : List SortKey :=
  (orders.map fun order => order.key select c).reverse

variable {order : CardOrder} {orders : List CardOrder} {select : TextSelector}

/-- Due dates are compared as keys. -/
theorem dueLe_iff {a b : Option Date} : dueLe a b = true ↔ ¬ SortKey.Before (.due b) (.due a) := by
  cases a with
  | none => cases b <;> simp [dueLe, SortKey.Before]
  | some a =>
    cases b with
    | none => simp [dueLe, SortKey.Before]
    | some b => exact Date.le_iff_not_before

/-- Only equal due dates are alike. -/
theorem alike_dueLe_iff {a b : Option Date} : alike dueLe a b = true ↔ a = b := by
  cases a with
  | none => cases b <;> simp [alike, dueLe]
  | some a =>
    cases b with
    | none => simp [alike, dueLe]
    | some b =>
      rw [alike, Bool.and_eq_true, dueLe, dueLe, Date.le_iff_ordinal_le, Date.le_iff_ordinal_le,
        ← le_antisymm_iff, Date.ordinal_inj, Option.some.injEq]

/-- Texts are compared as keys. -/
theorem textLe_iff {s t : Text} : Text.le s t = true ↔ ¬ t < s := by
  rw [Text.le, Bool.not_eq_true', decide_eq_false_iff_not]

/-- Only equal texts are alike. -/
theorem alike_textLe_iff {s t : Text} : alike Text.le s t = true ↔ s = t := by
  rw [alike, Bool.and_eq_true, textLe_iff, textLe_iff]
  constructor
  · rintro ⟨hst, hts⟩
    exact List.le_antisymm hst hts
  · rintro rfl
    exact ⟨List.lt_irrefl s, List.lt_irrefl s⟩

/-- Each order compares cards by its key. -/
theorem comparesBy_le (order : CardOrder) (select : TextSelector) :
    ComparesBy SortKey.Before (order.key select) (order.le select) where
  order := isSortOrder_le order select
  le_iff a b := by
    cases order with
    | byDate => exact dueLe_iff
    | byName => exact textLe_iff
  alike_iff a b := by
    cases order with
    | byDate => exact alike_dueLe_iff.trans (SortKey.due.injEq _ _).symm.to_iff
    | byName => exact alike_textLe_iff.trans (SortKey.name.injEq _ _).symm.to_iff

/-- A further order before others adds its key at the end. -/
theorem keys_cons (order : CardOrder) (orders : List CardOrder) (select : TextSelector) (c : Card) :
    keys (order :: orders) select c = keys orders select c ++ [order.key select c] := by
  rw [keys, List.map_cons, List.reverse_cons, keys]

/-- All cards have as many keys as there are orders. -/
theorem length_keys (orders : List CardOrder) (select : TextSelector) (c : Card) :
    (keys orders select c).length = orders.length := by
  rw [keys, List.length_reverse, List.length_map]

/-- Orders in turn compare cards by all their keys. -/
theorem comparesBy_allLe (orders : List CardOrder) (select : TextSelector) :
    ComparesBy (List.Lex SortKey.Before) (keys orders select) (allLe orders select) := by
  induction orders with
  | nil =>
    refine ⟨isSortOrder_allLe [] select, fun a b => ?_, fun a b => ?_⟩
    · exact iff_of_true rfl List.not_lex_nil
    · exact iff_of_true rfl rfl
  | cons order orders ih =>
    have hkeys : keys (order :: orders) select =
        fun c => keys orders select c ++ [order.key select c] :=
      funext (keys_cons order orders select)
    rw [hkeys]
    refine ih.thenBy (comparesBy_le order select) fun a b => ?_
    rw [length_keys, length_keys]

/-- An order that comes again later makes no difference. -/
theorem allLe_cons_of_mem (h : order ∈ orders) :
    allLe (order :: orders) select = allLe orders select := by
  funext a b
  have hcons : allLe (order :: orders) select a b =
      (allLe orders select a b && (!allLe orders select b a || order.le select a b)) := rfl
  rw [hcons]
  cases hab : allLe orders select a b with
  | false => rw [Bool.false_and]
  | true =>
    cases hba : allLe orders select b a with
    | false => rfl
    | true =>
      -- cards with the same keys in all later orders have the same key in this one
      have halike : alike (allLe orders select) a b = true := by rw [alike, hab, hba, Bool.and_self]
      have hkeys := ((comparesBy_allLe orders select).alike_iff a b).mp halike
      have hkey : order.key select a = order.key select b :=
        List.map_inj_left.mp (List.reverse_injective hkeys) order h
      have hle := ((comparesBy_le order select).alike_iff a b).mpr hkey
      rw [alike, Bool.and_eq_true] at hle
      rw [hle.1]
      rfl

/-- Only the last occurrence of each order counts. -/
theorem allLe_dedup (orders : List CardOrder) (select : TextSelector) :
    allLe orders.dedup select = allLe orders select := by
  induction orders with
  | nil => rfl
  | cons order orders ih =>
    by_cases h : order ∈ orders
    · rw [List.dedup_cons_of_mem h, ih, allLe_cons_of_mem h]
    · rw [List.dedup_cons_of_notMem h]
      exact congrArg (fun first => thenBy first (order.le select)) ih

end CardOrder

variable {select : TextSelector} {cards : List Card}

/-- Putting cards in some orders in turn is the stable sort by all their keys. -/
theorem isStableSort_orderAll (orders : List CardOrder) (select : TextSelector)
    (cards : List Card) :
    IsStableSort (List.Lex SortKey.Before) (CardOrder.keys orders select) cards
      (orderAll orders select cards) := by
  rw [orderAll_eq_mergeSort]
  exact (CardOrder.comparesBy_allLe orders select).isStableSort_mergeSort cards

/-- Every stable sort by all the keys of cards gives the cards in these orders. -/
theorem IsStableSort.eq_orderAll {orders : List CardOrder} {sorted : List Card}
    (h : IsStableSort (List.Lex SortKey.Before) (CardOrder.keys orders select) cards sorted) :
    sorted = orderAll orders select cards := by
  rw [orderAll_eq_mergeSort]
  exact (CardOrder.comparesBy_allLe orders select).eq_mergeSort h

/-- An order need only be applied where it comes last. -/
theorem orderAll_dedup (orders : List CardOrder) (select : TextSelector) (cards : List Card) :
    orderAll orders.dedup select cards = orderAll orders select cards := by
  rw [orderAll_eq_mergeSort, orderAll_eq_mergeSort, CardOrder.allLe_dedup]

/-- Applying orders by their names is applying them. -/
theorem foldl_orderCardsBy (orders : List CardOrder) (select : TextSelector) (cards : List Card) :
    orders.foldl (fun cards order => orderCardsBy (some order.label) select cards) cards =
      orderAll orders select cards := by
  have hname (order : CardOrder) (cards : List Card) :
      orderCardsBy (some order.label) select cards = orderCards order select cards := by
    cases order <;> rfl
  simp only [hname]
  rfl

end GatherBoard
