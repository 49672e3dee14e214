import GatherBoard.Disk.Path

/-!
# Paths in home directories

A tilde stands for a home directory at the front of a path only: a path that begins at the
root or with another name is left as it is. Who runs the program has a home, so what may be
missing is the home of a user with a name.
-/

namespace GatherBoard

variable {homes : Homes} {p : Path}

/-- A path without a tilde in front is left as it is. -/
theorem Path.expand?_of_plain (h : ∀ user names, p ≠ ⟨[], ('~' :: user) :: names⟩) :
    p.expand? homes = some p := by
  obtain ⟨root, names⟩ := p
  unfold expand?
  dsimp only
  split
  · next user more => exact absurd rfl (h user more)
  · rfl

/-- The home that is missing is that of a user with a name. -/
theorem Homes.find?_eq_none_iff {user : Text} :
    homes.find? user = none ↔ user ≠ [] ∧ homes.ofUser? user = none := by
  cases user with
  | nil => simp [find?]
  | cons c user => simp [find?]

/-- A path is not expanded exactly if it begins in the home of a user who has none. -/
theorem Path.expand?_eq_none_iff : p.expand? homes = none ↔
    ∃ user names, p = ⟨[], ('~' :: user) :: names⟩ ∧ user ≠ [] ∧ homes.ofUser? user = none := by
  constructor
  · intro h
    by_cases hp : ∃ user names, p = ⟨[], ('~' :: user) :: names⟩
    · obtain ⟨user, names, rfl⟩ := hp
      exact ⟨user, names, rfl, Homes.find?_eq_none_iff.mp (Option.map_eq_none_iff.mp h)⟩
    · rw [expand?_of_plain fun user names he => hp ⟨user, names, he⟩] at h
      cases h
  · rintro ⟨user, names, rfl, hu⟩
    exact Option.map_eq_none_iff.mpr (Homes.find?_eq_none_iff.mpr hu)

end GatherBoard
