import Mathlib.Data.List.Forall2

/-!
# Steps that can fail

A list of steps succeeds exactly if every one of them does, and a failure of
all is the failure of one of them. A run of steps keeps what each step keeps.
-/

namespace GatherBoard

variable {α β ε : Type}

/-- A value comes out of two steps exactly if it comes out of the second after the
first. -/
theorem bind_eq_ok_iff {x : Except ε α} {f : α → Except ε β} {b : β} :
    (x >>= f) = .ok b ↔ ∃ a, x = .ok a ∧ f a = .ok b := by
  cases x with
  | error e => simp [bind, Except.bind]
  | ok a => simp [bind, Except.bind]

/-- A value comes out of a changed outcome exactly if it is a changed value. -/
theorem map_eq_ok_iff {x : Except ε α} {f : α → β} {b : β} :
    x.map f = .ok b ↔ ∃ a, x = .ok a ∧ f a = b := by
  cases x with
  | error e => simp [Except.map]
  | ok a => simp [Except.map]

/-- A changed outcome fails as the outcome does. -/
theorem map_eq_error_iff {x : Except ε α} {f : α → β} {e : ε} :
    x.map f = .error e ↔ x = .error e := by
  cases x with
  | error e' => simp [Except.map]
  | ok a => simp [Except.map]

/-- Renaming failures does not touch successes. -/
theorem mapError_eq_ok_iff {ε' : Type} {x : Except ε α} {f : ε → ε'} {a : α} :
    x.mapError f = .ok a ↔ x = .ok a := by
  cases x <;> simp [Except.mapError]

/-- A changed outcome is a success if the outcome is. -/
theorem exists_map_iff {x : Except ε α} {f : α → β} :
    (∃ b, x.map f = .ok b) ↔ ∃ a, x = .ok a := by
  cases x with
  | error e => simp [Except.map]
  | ok a => simp [Except.map]

/-- Two steps fail if the first does, or else the second. -/
theorem bind_eq_error_iff {x : Except ε α} {f : α → Except ε β} {e : ε} :
    (x >>= f) = .error e ↔ x = .error e ∨ ∃ a, x = .ok a ∧ f a = .error e := by
  cases x with
  | error e' => simp [bind, Except.bind]
  | ok a => simp [bind, Except.bind]

/-- A list of steps succeeds if every step does. -/
theorem mapM_eq_ok_iff {f : α → Except ε β} {xs : List α} {ys : List β} :
    xs.mapM f = .ok ys ↔ List.Forall₂ (fun x y => f x = .ok y) xs ys := by
  induction xs generalizing ys with
  | nil =>
    rw [List.mapM_nil, List.forall₂_nil_left_iff]
    constructor
    · rintro ⟨⟩
      rfl
    · rintro rfl
      rfl
  | cons x xs ih =>
    rw [List.mapM_cons, bind_eq_ok_iff, List.forall₂_cons_left_iff]
    constructor
    · rintro ⟨y, hy, h⟩
      obtain ⟨ys', hys, ⟨⟩⟩ := bind_eq_ok_iff.mp h
      exact ⟨y, ys', hy, ih.mp hys, rfl⟩
    · rintro ⟨y, ys', hy, hys, rfl⟩
      exact ⟨y, hy, bind_eq_ok_iff.mpr ⟨ys', ih.mpr hys, rfl⟩⟩

/-- What is related to a list comes from one of its elements. -/
theorem exists_of_forall₂_of_mem {R : α → β → Prop} {xs : List α} {ys : List β}
    (h : List.Forall₂ R xs ys) {y : β} (hy : y ∈ ys) : ∃ x ∈ xs, R x y := by
  induction h with
  | nil => simp at hy
  | @cons x y' xs ys hr hrs ih =>
    rcases List.mem_cons.mp hy with rfl | hy
    · exact ⟨x, List.mem_cons_self, hr⟩
    · obtain ⟨x', hx', hr'⟩ := ih hy
      exact ⟨x', List.mem_cons_of_mem x hx', hr'⟩

/-- What each element is related to can be listed. -/
theorem exists_forall₂ {R : α → β → Prop} {xs : List α} (h : ∀ x ∈ xs, ∃ y, R x y) :
    ∃ ys, List.Forall₂ R xs ys := by
  induction xs with
  | nil => exact ⟨[], .nil⟩
  | cons x xs ih =>
    obtain ⟨y, hy⟩ := h x List.mem_cons_self
    obtain ⟨ys, hys⟩ := ih (fun x' hx' => h x' (List.mem_cons_of_mem x hx'))
    exact ⟨y :: ys, .cons hy hys⟩

/-- Lists that are related by equal values have the same values. -/
theorem map_eq_of_forall₂ {γ : Type} {f : α → γ} {g : β → γ} {xs : List α} {ys : List β}
    (h : List.Forall₂ (fun x y => f x = g y) xs ys) : xs.map f = ys.map g := by
  rwa [← List.forall₂_eq_eq_eq, List.forall₂_map_left_iff, List.forall₂_map_right_iff]

/-- A list of steps succeeds if no step fails. -/
theorem exists_mapM_iff {f : α → Except ε β} {xs : List α} :
    (∃ ys, xs.mapM f = .ok ys) ↔ ∀ x ∈ xs, ∃ y, f x = .ok y := by
  constructor
  · rintro ⟨ys, h⟩ x hx
    obtain ⟨y, -, hy⟩ := exists_of_forall₂_of_mem (mapM_eq_ok_iff.mp h).flip hx
    exact ⟨y, hy⟩
  · intro h
    obtain ⟨ys, hys⟩ := exists_forall₂ h
    exact ⟨ys, mapM_eq_ok_iff.mpr hys⟩

/-- What is collected from the outcomes of steps is collected from the steps. -/
theorem mem_flatMap_iff_of_mapM {γ : Type} {f : α → Except ε β} {g : β → List γ} {xs : List α}
    {ys : List β} (h : xs.mapM f = .ok ys) {z : γ} :
    z ∈ ys.flatMap g ↔ ∃ x ∈ xs, ∃ y, f x = .ok y ∧ z ∈ g y := by
  have hf := mapM_eq_ok_iff.mp h
  rw [List.mem_flatMap]
  constructor
  · rintro ⟨y, hy, hz⟩
    obtain ⟨x, hx, hxy⟩ := exists_of_forall₂_of_mem hf hy
    exact ⟨x, hx, y, hxy, hz⟩
  · rintro ⟨x, hx, y, hxy, hz⟩
    obtain ⟨y', hy', hxy'⟩ := exists_of_forall₂_of_mem hf.flip hx
    rw [hxy, Except.ok.injEq] at hxy'
    exact ⟨y, hxy' ▸ hy', hz⟩

/-- A list of steps fails with its first failure. -/
theorem mapM_eq_error_iff {f : α → Except ε β} {xs : List α} {e : ε} :
    xs.mapM f = .error e ↔
      ∃ before x after, xs = before ++ x :: after ∧ (∀ y ∈ before, ∃ b, f y = .ok b) ∧
        f x = .error e := by
  induction xs with
  | nil =>
    constructor
    · rintro ⟨⟩
    · rintro ⟨before, x, after, hs, -⟩
      simp at hs
  | cons x xs ih =>
    rw [List.mapM_cons, bind_eq_error_iff]
    constructor
    · rintro (hx | ⟨b, hb, h⟩)
      · exact ⟨[], x, xs, rfl, by simp, hx⟩
      · obtain hxs | ⟨bs, -, ⟨⟩⟩ := bind_eq_error_iff.mp h
        obtain ⟨before, y, after, hs, hok, hy⟩ := ih.mp hxs
        refine ⟨x :: before, y, after, by rw [hs, List.cons_append], ?_, hy⟩
        intro z hz
        rcases List.mem_cons.mp hz with rfl | hz
        · exact ⟨b, hb⟩
        · exact hok z hz
    · rintro ⟨before, y, after, hs, hok, hy⟩
      cases before with
      | nil =>
        obtain ⟨rfl, -⟩ := List.cons.inj hs
        exact Or.inl hy
      | cons z before =>
        obtain ⟨rfl, htail⟩ := List.cons.inj hs
        obtain ⟨b, hb⟩ := hok x List.mem_cons_self
        have hrest : ∀ z ∈ before, ∃ b, f z = .ok b :=
          fun z hz => hok z (List.mem_cons_of_mem x hz)
        have hxs : xs.mapM f = .error e := ih.mpr ⟨before, y, after, htail, hrest, hy⟩
        exact Or.inr ⟨b, hb, bind_eq_error_iff.mpr (Or.inl hxs)⟩

/-- A list of steps fails with the failure of one of them. -/
theorem exists_of_mapM_eq_error {f : α → Except ε β} {xs : List α} {e : ε}
    (h : xs.mapM f = .error e) : ∃ x ∈ xs, f x = .error e := by
  obtain ⟨before, x, after, rfl, -, hx⟩ := mapM_eq_error_iff.mp h
  exact ⟨x, List.mem_append_right before List.mem_cons_self, hx⟩

/-- Changing the value of each step is changing the values of all. -/
theorem mapM_map {γ : Type} (f : α → Except ε β) (k : β → γ) (xs : List α) :
    (xs.mapM fun x => (f x).map k) = (xs.mapM f).map (List.map k) := by
  induction xs with
  | nil => rfl
  | cons x xs ih =>
    rw [List.mapM_cons, List.mapM_cons, ih]
    cases f x with
    | error e => rfl
    | ok y => cases xs.mapM f <;> rfl

/-- Lists of steps one after the other are one list of steps. -/
theorem mapM_flatMap {γ : Type} (f : α → List β) (g : β → Except ε γ) (xs : List α) :
    (xs.flatMap f).mapM g = (xs.mapM fun x => (f x).mapM g).map List.flatten := by
  induction xs with
  | nil => rfl
  | cons x xs ih =>
    rw [List.flatMap_cons, List.mapM_append, List.mapM_cons, ih]
    cases (f x).mapM g with
    | error e => rfl
    | ok ys => cases xs.mapM (fun x => (f x).mapM g) <;> rfl

/-- All answers are yes if each of them is. -/
theorem allM_eq_true_iff {p : α → Except ε Bool} {xs : List α} :
    xs.allM p = .ok true ↔ ∀ x ∈ xs, p x = .ok true := by
  induction xs with
  | nil => simp [List.allM, pure, Except.pure]
  | cons x xs ih =>
    rw [List.allM, bind_eq_ok_iff, List.forall_mem_cons, ← ih]
    constructor
    · rintro ⟨b, hb, h⟩
      cases b with
      | false => cases h
      | true => exact ⟨hb, h⟩
    · rintro ⟨hx, hxs⟩
      exact ⟨true, hx, hxs⟩

/-- No answer is yes if each of them is no. -/
theorem anyM_eq_false_iff {p : α → Except ε Bool} {xs : List α} :
    xs.anyM p = .ok false ↔ ∀ x ∈ xs, p x = .ok false := by
  induction xs with
  | nil => simp [List.anyM, pure, Except.pure]
  | cons x xs ih =>
    rw [List.anyM, bind_eq_ok_iff, List.forall_mem_cons, ← ih]
    constructor
    · rintro ⟨b, hb, h⟩
      cases b with
      | true => cases h
      | false => exact ⟨hb, h⟩
    · rintro ⟨hx, hxs⟩
      exact ⟨false, hx, hxs⟩

/-- Some answer is yes if one of them is. -/
theorem exists_of_anyM_eq_true {p : α → Except ε Bool} {xs : List α}
    (h : xs.anyM p = .ok true) : ∃ x ∈ xs, p x = .ok true := by
  induction xs with
  | nil => cases h
  | cons x xs ih =>
    rw [List.anyM, bind_eq_ok_iff] at h
    obtain ⟨b, hb, h⟩ := h
    cases b with
    | true => exact ⟨x, List.mem_cons_self, hb⟩
    | false =>
      obtain ⟨y, hy, hp⟩ := ih h
      exact ⟨y, List.mem_cons_of_mem x hy, hp⟩

/-- Asking whether all answers are yes comes to an answer if each question does. -/
theorem exists_allM {p : α → Except ε Bool} {xs : List α} (h : ∀ x ∈ xs, ∃ b, p x = .ok b) :
    ∃ b, xs.allM p = .ok b := by
  induction xs with
  | nil => exact ⟨true, rfl⟩
  | cons x xs ih =>
    obtain ⟨b, hb⟩ := h x List.mem_cons_self
    cases b with
    | false => exact ⟨false, bind_eq_ok_iff.mpr ⟨false, hb, rfl⟩⟩
    | true =>
      obtain ⟨b', hb'⟩ := ih (fun y hy => h y (List.mem_cons_of_mem x hy))
      exact ⟨b', bind_eq_ok_iff.mpr ⟨true, hb, hb'⟩⟩

/-- Asking whether one answer is yes comes to an answer if each question does. -/
theorem exists_anyM {p : α → Except ε Bool} {xs : List α} (h : ∀ x ∈ xs, ∃ b, p x = .ok b) :
    ∃ b, xs.anyM p = .ok b := by
  induction xs with
  | nil => exact ⟨false, rfl⟩
  | cons x xs ih =>
    obtain ⟨b, hb⟩ := h x List.mem_cons_self
    cases b with
    | true => exact ⟨true, bind_eq_ok_iff.mpr ⟨true, hb, rfl⟩⟩
    | false =>
      obtain ⟨b', hb'⟩ := ih (fun y hy => h y (List.mem_cons_of_mem x hy))
      exact ⟨b', bind_eq_ok_iff.mpr ⟨false, hb, hb'⟩⟩

/-- Second steps that agree on what comes out of the first agree after it. -/
theorem bind_congr_of_ok {x : Except ε α} {f g : α → Except ε β} (h : ∀ a, x = .ok a → f a = g a) :
    (x >>= f) = (x >>= g) := by
  cases x with
  | error e => rfl
  | ok a => exact h a rfl

/-- Steps that agree on every element of a list agree on the list. -/
theorem mapM_congr {f g : α → Except ε β} {xs : List α} (h : ∀ x ∈ xs, f x = g x) :
    xs.mapM f = xs.mapM g := by
  induction xs with
  | nil => rfl
  | cons x xs ih =>
    rw [List.forall_mem_cons] at h
    rw [List.mapM_cons, List.mapM_cons, h.1, ih h.2]

/-- Questions that agree on every element agree on whether all answers are yes. -/
theorem allM_congr {p q : α → Except ε Bool} {xs : List α} (h : ∀ x ∈ xs, p x = q x) :
    xs.allM p = xs.allM q := by
  induction xs with
  | nil => rfl
  | cons x xs ih =>
    rw [List.forall_mem_cons] at h
    rw [List.allM, List.allM, h.1, ih h.2]

/-- Questions that agree on every element agree on whether one answer is yes. -/
theorem anyM_congr {p q : α → Except ε Bool} {xs : List α} (h : ∀ x ∈ xs, p x = q x) :
    xs.anyM p = xs.anyM q := by
  induction xs with
  | nil => rfl
  | cons x xs ih =>
    rw [List.forall_mem_cons] at h
    rw [List.anyM, List.anyM, h.1, ih h.2]

end GatherBoard
