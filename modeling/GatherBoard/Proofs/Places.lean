import Mathlib.Data.List.Forall2

/-!
# Mapping with places

Columns and cards are numbered by mapping a list with the places of its
elements. What does not depend on the places is as after an ordinary map, and
what depends on them alone is a list of places.
-/

namespace GatherBoard

variable {α β γ : Type} {l : List α}

/-- Mapping before mapping with places is mapping once with places. -/
theorem mapIdx_map (l : List α) (f : α → β) (g : Nat → β → γ) :
    (l.map f).mapIdx g = l.mapIdx fun i a => g i (f a) := by
  refine List.ext_getElem (by simp) (fun i h h' => ?_)
  simp

/-- Mappings with places agree if they do so at every element. -/
theorem mapIdx_congr {f g : Nat → α → β} (h : ∀ i, ∀ a ∈ l, f i a = g i a) :
    l.mapIdx f = l.mapIdx g :=
  List.mapIdx_eq_mapIdx_iff.mpr fun i hi => h i _ (List.getElem_mem hi)

/-- A map after one with places is a map if the places do not matter. -/
theorem map_mapIdx_eq {f : Nat → α → β} {g : β → γ} {h : α → γ}
    (he : ∀ i, ∀ a ∈ l, g (f i a) = h a) : (l.mapIdx f).map g = l.map h := by
  refine List.ext_getElem (by simp) (fun i hi hi' => ?_)
  rw [List.length_map] at hi'
  rw [List.getElem_map, List.getElem_mapIdx, List.getElem_map]
  exact he i _ (List.getElem_mem hi')

/-- If a map after one with places is a map, it is one at every place. -/
theorem exists_of_map_mapIdx_eq {f : Nat → α → β} {g : β → γ} {h : α → γ}
    (he : (l.mapIdx f).map g = l.map h) {a : α} (ha : a ∈ l) : ∃ i, g (f i a) = h a := by
  obtain ⟨i, hi, rfl⟩ := List.getElem_of_mem ha
  have hg := congrArg (fun l => l[i]?) he
  simp only [List.getElem?_map, List.getElem?_mapIdx, List.getElem?_eq_getElem hi,
    Option.map_some, Option.some.injEq] at hg
  exact ⟨i, hg⟩

/-- Values that depend on the place alone are those of the places. -/
theorem map_mapIdx_eq_range {f : Nat → α → β} {g : β → γ} {key : Nat → γ}
    (h : ∀ i a, g (f i a) = key i) (l : List α) :
    (l.mapIdx f).map g = (List.range l.length).map key := by
  refine List.ext_getElem (by simp) (fun i hi hi' => ?_)
  rw [List.getElem_map, List.getElem_mapIdx, List.getElem_map, List.getElem_range, h]

/-- What is related at every place is related. -/
theorem forall₂_mapIdx {R : α → β → Prop} {f : Nat → α → β}
    (h : ∀ i (hi : i < l.length), R l[i] (f i l[i])) : List.Forall₂ R l (l.mapIdx f) := by
  refine List.forall₂_of_length_eq_of_get List.length_mapIdx.symm (fun i hi hi' => ?_)
  rw [List.get_eq_getElem, List.get_eq_getElem, List.getElem_mapIdx]
  exact h i hi

end GatherBoard
