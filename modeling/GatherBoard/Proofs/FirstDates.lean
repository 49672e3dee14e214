import GatherBoard.Proofs.DateTags
import GatherBoard.Proofs.Facts
import Mathlib.Data.List.Induction

/-!
# What the tags of a text add up to

The facts of a text are told by the bodies of its tags. Of every kind of date the first one
counts, the kinds other than the due date stand in the order of their first dates, and the
bodies that are neither sticky nor a date are the persons.
-/

namespace GatherBoard.Facts

/-- The date is the first of its kind among the bodies and stands at this place. -/
def FirstAt (bodies : List Text) (kind : Text) (i : Nat) (date : Date) : Prop :=
  (∃ body, bodies[i]? = some body ∧ Tag.IsDate body kind date) ∧
    ∀ j < i, ∀ body, bodies[j]? = some body → ∀ other, ¬ Tag.IsDate body kind other

/-- The facts have the first date of every kind among the bodies. -/
structure KeepsFirst (bodies : List Text) (facts : Facts) : Prop where
  due : ∀ date, facts.dueDate = some date ↔ ∃ i, FirstAt bodies Tag.dueKind i date
  others : ∀ kind date, (kind, date) ∈ facts.otherDates ↔
    kind ≠ Tag.dueKind ∧ ∃ i, FirstAt bodies kind i date
  order : facts.otherDates.Pairwise fun p q =>
    ∃ i j, i < j ∧ FirstAt bodies p.1 i p.2 ∧ FirstAt bodies q.1 j q.2

variable {bodies more : List Text} {body kind other : Text} {i j : Nat} {date : Date}
  {facts : Facts}

/-- The place of a first date is one of the bodies. -/
theorem FirstAt.lt_length (h : FirstAt bodies kind i date) : i < bodies.length := by
  obtain ⟨⟨body, hb, -⟩, -⟩ := h
  exact (List.getElem?_eq_some_iff.mp hb).1

/-- Among bodies before others, a date is the first of its kind if it is so without the others. -/
theorem firstAt_append_left (hi : i < bodies.length) :
    FirstAt (bodies ++ more) kind i date ↔ FirstAt bodies kind i date := by
  have hget : ∀ j ≤ i, (bodies ++ more)[j]? = bodies[j]? :=
    fun j hj => List.getElem?_append_left (hj.trans_lt hi)
  unfold FirstAt
  rw [hget i le_rfl]
  refine and_congr_right fun _ => forall₂_congr fun j hj => ?_
  rw [hget j hj.le]

/-- Among bodies after others, a date is the first of its kind if it is so without the others
and none of the others has this kind. -/
theorem firstAt_append_right :
    FirstAt (bodies ++ more) kind (bodies.length + i) date ↔
      (∀ body ∈ bodies, ∀ date, ¬ Tag.IsDate body kind date) ∧ FirstAt more kind i date := by
  have hget (j : Nat) : (bodies ++ more)[bodies.length + j]? = more[j]? := by
    rw [List.getElem?_append_right (Nat.le_add_right _ _), Nat.add_sub_cancel_left]
  unfold FirstAt
  rw [hget]
  constructor
  · rintro ⟨hdate, hbefore⟩
    refine ⟨?_, hdate, ?_⟩
    · intro body hm
      obtain ⟨j, hj, hget⟩ := List.mem_iff_getElem.mp hm
      refine hbefore j (Nat.lt_add_right i hj) body ?_
      rw [List.getElem?_append_left hj, List.getElem?_eq_getElem hj, hget]
    · intro j hj body hb
      exact hbefore (bodies.length + j) (Nat.add_lt_add_left hj _) body ((hget j).trans hb)
  · rintro ⟨hnone, hdate, hbefore⟩
    refine ⟨hdate, fun j hj body hb => ?_⟩
    rcases Nat.lt_or_ge j bodies.length with hlt | hge
    · rw [List.getElem?_append_left hlt] at hb
      exact hnone body (List.mem_of_getElem? hb)
    · obtain ⟨k, rfl⟩ := Nat.exists_eq_add_of_le hge
      exact hbefore k (by omega) body ((hget k).symm.trans hb)

/-- A single body is the first date of the kind that it has. -/
theorem firstAt_singleton : FirstAt [body] kind i date ↔ i = 0 ∧ Tag.IsDate body kind date := by
  constructor
  · intro h
    obtain rfl : i = 0 := Nat.lt_one_iff.mp h.lt_length
    obtain ⟨⟨body', hb, hd⟩, -⟩ := h
    cases hb
    exact ⟨rfl, hd⟩
  · rintro ⟨rfl, hd⟩
    exact ⟨⟨body, rfl, hd⟩, fun j hj => absurd hj (Nat.not_lt_zero j)⟩

/-- A further body is the first date of its kind if there was none of it before. -/
theorem firstAt_concat :
    FirstAt (bodies ++ [body]) kind i date ↔ FirstAt bodies kind i date ∨
      (i = bodies.length ∧ Tag.IsDate body kind date ∧
        ∀ body ∈ bodies, ∀ date, ¬ Tag.IsDate body kind date) := by
  rcases Nat.lt_or_ge i bodies.length with hlt | hge
  · rw [firstAt_append_left hlt]
    exact (or_iff_left fun h => hlt.ne h.1).symm
  · have hnot : ¬ FirstAt bodies kind i date := fun h => absurd h.lt_length (Nat.not_lt.mpr hge)
    obtain ⟨j, rfl⟩ := Nat.exists_eq_add_of_le hge
    rw [firstAt_append_right, firstAt_singleton, or_iff_right hnot, Nat.add_eq_left]
    exact ⟨fun ⟨hnone, hj, hd⟩ => ⟨hj, hd, hnone⟩, fun ⟨hj, hd, hnone⟩ => ⟨hnone, hj, hd⟩⟩

/-- A kind has a first date among the bodies if one of them is a date of it. -/
theorem exists_firstAt_iff :
    (∃ i date, FirstAt bodies kind i date) ↔ ∃ body ∈ bodies, ∃ date, Tag.IsDate body kind date := by
  constructor
  · rintro ⟨i, date, ⟨body, hb, hd⟩, -⟩
    exact ⟨body, List.mem_of_getElem? hb, date, hd⟩
  -- from the end: the last body is the first of its kind if no body before it has this kind
  · induction bodies using List.reverseRecOn with
    | nil => simp
    | append_singleton bodies last ih =>
      intro h
      by_cases hold : ∃ body ∈ bodies, ∃ date, Tag.IsDate body kind date
      · obtain ⟨i, date, hfirst⟩ := ih hold
        exact ⟨i, date, firstAt_concat.mpr (Or.inl hfirst)⟩
      · obtain ⟨body, hm, date, hd⟩ := h
        push Not at hold
        rcases List.mem_append.mp hm with hm | hm
        · exact absurd hd (hold body hm date)
        · obtain rfl := List.mem_singleton.mp hm
          exact ⟨_, date, firstAt_concat.mpr (Or.inr ⟨rfl, hd, hold⟩)⟩

/-- A further body of no kind, or of a kind that has its first date, changes no first date. -/
theorem firstAt_concat_old
    (h : ∀ date, Tag.IsDate body kind date → ∃ i date, FirstAt bodies kind i date) :
    FirstAt (bodies ++ [body]) kind i date ↔ FirstAt bodies kind i date := by
  rw [firstAt_concat, or_iff_left]
  rintro ⟨-, hd, hnone⟩
  obtain ⟨body', hm, date', hd'⟩ := exists_firstAt_iff.mp (h date hd)
  exact hnone body' hm date' hd'

/-- A further body of a kind that has no date yet is its first date and changes no other. -/
theorem firstAt_concat_new (hd : ∀ k d, Tag.IsDate body k d ↔ k = kind ∧ d = date)
    (hnew : ∀ i d, ¬ FirstAt bodies kind i d) {day : Date} :
    FirstAt (bodies ++ [body]) other i day ↔
      FirstAt bodies other i day ∨ (i = bodies.length ∧ other = kind ∧ day = date) := by
  rw [firstAt_concat, hd]
  refine or_congr_right (and_congr_right fun _ => and_iff_left_of_imp ?_)
  rintro ⟨rfl, rfl⟩
  intro earlier hm d hearlier
  obtain ⟨j, d', hfirst⟩ := exists_firstAt_iff.mpr ⟨earlier, hm, d, hearlier⟩
  exact hnew j d' hfirst

namespace KeepsFirst

/-- Without bodies there are no dates. -/
theorem empty : KeepsFirst [] Facts.empty := by
  have hnot (kind : Text) (i : Nat) (date : Date) : ¬ FirstAt [] kind i date :=
    fun h => absurd h.lt_length (Nat.not_lt_zero i)
  exact ⟨by simp [Facts.empty, hnot], by simp [Facts.empty, hnot], .nil⟩

/-- Facts with the same dates keep the first ones when a further body changes none of them. -/
theorem of_firstAt_iff {facts' : Facts} (h : KeepsFirst bodies facts)
    (hsame : ∀ kind i date, FirstAt more kind i date ↔ FirstAt bodies kind i date)
    (hdue : facts'.dueDate = facts.dueDate) (hothers : facts'.otherDates = facts.otherDates) :
    KeepsFirst more facts' where
  due date := by simp only [hdue, hsame, h.due]
  others kind date := by simp only [hothers, hsame, h.others]
  order := by simpa only [hothers, hsame] using h.order

/-- A further body that is no date leaves the first dates as they are. -/
theorem concat_of_not_isDate {facts' : Facts} (h : KeepsFirst bodies facts)
    (hno : ∀ kind date, ¬ Tag.IsDate body kind date)
    (hdue : facts'.dueDate = facts.dueDate) (hothers : facts'.otherDates = facts.otherDates) :
    KeepsFirst (bodies ++ [body]) facts' :=
  h.of_firstAt_iff
    (fun _ _ _ => firstAt_concat_old fun date hd => absurd hd (hno _ date)) hdue hothers

/-- A kind that has its first date is known. -/
theorem addDate_of_firstAt (h : KeepsFirst bodies facts) {first : Date}
    (hfirst : FirstAt bodies kind i first) : facts.addDate kind date = facts := by
  unfold Facts.addDate
  split_ifs with hkind hany
  · subst hkind
    have hdue : facts.dueDate = some first := (h.due first).mpr ⟨i, hfirst⟩
    rw [hdue]
    exact congrArg (fun due => { facts with dueDate := due }) hdue.symm
  · rfl
  · have hm := (h.others kind first).mpr ⟨hkind, i, hfirst⟩
    exact absurd (List.any_eq_true.mpr ⟨_, hm, beq_self_eq_true kind⟩) hany

/-- The order of first dates is not changed by a further body. -/
theorem order_concat (h : KeepsFirst bodies facts) (body : Text) :
    facts.otherDates.Pairwise fun p q =>
      ∃ i j, i < j ∧ FirstAt (bodies ++ [body]) p.1 i p.2 ∧ FirstAt (bodies ++ [body]) q.1 j q.2 := by
  refine h.order.imp ?_
  rintro p q ⟨i, j, hij, hi, hj⟩
  exact ⟨i, j, hij, firstAt_concat.mpr (Or.inl hi), firstAt_concat.mpr (Or.inl hj)⟩

/-- The first date due is noted. -/
theorem addDueDate (h : KeepsFirst bodies facts)
    (hd : ∀ k d, Tag.IsDate body k d ↔ k = Tag.dueKind ∧ d = date)
    (hnew : ∀ i d, ¬ FirstAt bodies Tag.dueKind i d) :
    KeepsFirst (bodies ++ [body]) (facts.addDate Tag.dueKind date) := by
  have hnone : facts.dueDate = none := by
    rw [Option.eq_none_iff_forall_ne_some]
    intro d hdue
    obtain ⟨i, hfirst⟩ := (h.due d).mp hdue
    exact hnew i d hfirst
  rw [Facts.addDate, if_pos rfl, hnone]
  constructor
  · intro d
    simp only [firstAt_concat_new hd hnew, hnew]
    simp [eq_comm]
  · intro k d
    simp only [firstAt_concat_new hd hnew, h.others]
    refine and_congr_right fun hk => ?_
    simp [hk]
  · exact h.order_concat body

/-- The first date of another kind is noted after those of the kinds before it. -/
theorem addOtherDate (h : KeepsFirst bodies facts)
    (hd : ∀ k d, Tag.IsDate body k d ↔ k = kind ∧ d = date)
    (hnew : ∀ i d, ¬ FirstAt bodies kind i d) (hkind : kind ≠ Tag.dueKind) :
    KeepsFirst (bodies ++ [body]) (facts.addDate kind date) := by
  have hany : ¬ facts.otherDates.any (·.1 == kind) = true := by
    intro hany
    obtain ⟨⟨k, first⟩, hm, hk⟩ := List.any_eq_true.mp hany
    obtain rfl : k = kind := by simpa using hk
    obtain ⟨-, i, hfirst⟩ := (h.others k first).mp hm
    exact hnew i first hfirst
  rw [Facts.addDate, if_neg hkind, if_neg hany]
  constructor
  · intro d
    simp only [firstAt_concat_new hd hnew, h.due]
    simp [Ne.symm hkind]
  · intro k d
    simp only [firstAt_concat_new hd hnew, List.mem_append, List.mem_singleton, h.others,
      Prod.mk.injEq, exists_or, exists_eq_left, and_or_left]
    refine or_congr_right (Iff.symm (and_iff_right_of_imp ?_))
    rintro ⟨rfl, -⟩
    exact hkind
  · rw [List.pairwise_append]
    refine ⟨h.order_concat body, List.pairwise_singleton _ _, ?_⟩
    rintro ⟨k, d⟩ hm q hq
    obtain rfl := List.mem_singleton.mp hq
    obtain ⟨-, i, hfirst⟩ := (h.others k d).mp hm
    exact ⟨i, _, hfirst.lt_length, firstAt_concat.mpr (Or.inl hfirst),
      (firstAt_concat_new hd hnew).mpr (Or.inr ⟨rfl, rfl, rfl⟩)⟩

/-- A date that is noted is the first of its kind or changes nothing. -/
theorem addDate (h : KeepsFirst bodies facts)
    (hd : ∀ k d, Tag.IsDate body k d ↔ k = kind ∧ d = date) :
    KeepsFirst (bodies ++ [body]) (facts.addDate kind date) := by
  by_cases hknown : ∃ i first, FirstAt bodies kind i first
  · obtain ⟨i, first, hfirst⟩ := hknown
    rw [h.addDate_of_firstAt hfirst]
    refine h.of_firstAt_iff (fun k _ _ => firstAt_concat_old fun d hk => ?_) rfl rfl
    obtain ⟨rfl, -⟩ := (hd k d).mp hk
    exact ⟨i, first, hfirst⟩
  · push Not at hknown
    by_cases hkind : kind = Tag.dueKind
    · subst hkind
      exact h.addDueDate hd hknown
    · exact h.addOtherDate hd hknown hkind

/-- A further body keeps the first dates. -/
theorem addTag (h : KeepsFirst bodies facts) (hb : '\n' ∉ body) :
    KeepsFirst (bodies ++ [body]) (facts.addTag (Tag.ofBody body)) := by
  have hd (k : Text) (d : Date) : Tag.IsDate body k d ↔ Tag.ofBody body = .date k d :=
    (Tag.ofBody_eq_date_iff hb).symm
  cases ht : Tag.ofBody body with
  | sticky => exact h.concat_of_not_isDate (by simp [hd, ht]) rfl rfl
  | date kind date => exact h.addDate (by simp [hd, ht, eq_comm])
  | person name => exact h.concat_of_not_isDate (by simp [hd, ht]) rfl rfl

/-- Bodies in one line each are collected with the first dates. -/
theorem foldl_addTag (hbreak : ∀ body ∈ bodies, '\n' ∉ body) :
    KeepsFirst bodies ((bodies.map Tag.ofBody).foldl Facts.addTag Facts.empty) := by
  -- facts are noted in the order of the bodies, so that the last body is the last step
  induction bodies using List.reverseRecOn with
  | nil => exact empty
  | append_singleton bodies body ih =>
    rw [List.forall_mem_append, List.forall_mem_singleton] at hbreak
    rw [List.map_append, List.foldl_append]
    exact (ih hbreak.1).addTag hbreak.2

end KeepsFirst

/-- Putting a name at its place keeps the names in their order. -/
theorem pairwise_insertName {names : List Text} (h : names.Pairwise (· < ·)) (name : Text) :
    (insertName name names).Pairwise (· < ·) := by
  induction names with
  | nil => exact List.pairwise_singleton _ _
  | cons other more ih =>
    rw [List.pairwise_cons] at h
    unfold insertName
    split_ifs with heq hlt
    · exact List.pairwise_cons.mpr h
    · refine List.pairwise_cons.mpr ⟨?_, List.pairwise_cons.mpr h⟩
      rw [List.forall_mem_cons]
      exact ⟨hlt, fun x hx => List.lt_trans hlt (h.1 x hx)⟩
    · refine List.pairwise_cons.mpr ⟨fun x hx => ?_, ih h.2⟩
      rcases mem_insertName.mp hx with rfl | hx
      · exact Std.lt_of_le_of_ne (Std.not_lt.mp hlt) (Ne.symm heq)
      · exact h.1 x hx

/-- The persons are kept in the order of their names, each of them once. -/
theorem pairwise_persons_foldl (tags : List Tag) (h : facts.persons.Pairwise (· < ·)) :
    (tags.foldl addTag facts).persons.Pairwise (· < ·) := by
  induction tags generalizing facts with
  | nil => exact h
  | cons tag tags ih =>
    refine ih ?_
    cases tag with
    | sticky => exact h
    | date kind date => rwa [addTag, persons_addDate]
    | person name => exact pairwise_insertName h name

/-- The body of a tag has no white space. -/
theorem not_isBlank_of_mem_bodies {t : Text} (h : body ∈ Tag.bodies t) :
    ∀ c ∈ body, Text.isBlank c = false := by
  rw [Tag.bodies] at h
  generalize 0 = skip at h
  fun_induction Tag.bodiesFrom skip t with
  | case1 => cases h
  | case2 skip c rest ih => exact ih h
  | case3 rest taken hempty ih => exact ih h
  | case4 rest taken hempty ih =>
    rcases List.mem_cons.mp h with rfl | h
    · exact fun c hc => by simpa using List.mem_takeWhile_imp hc
    · exact ih h
  | case5 c rest hc ih => exact ih h

/-- The body of a tag is in one line. -/
theorem break_not_mem_of_mem_bodies {t : Text} (h : body ∈ Tag.bodies t) : '\n' ∉ body := by
  have hblank : Text.isBlank '\n' = true := by decide
  intro hm
  rw [not_isBlank_of_mem_bodies h _ hm] at hblank
  cases hblank

/-- A text keeps the first dates of its tags. -/
theorem keepsFirst_ofText (t : Text) : KeepsFirst (Tag.bodies t) (ofText t) :=
  KeepsFirst.foldl_addTag fun _ => break_not_mem_of_mem_bodies

/-- The persons of a text are the bodies that are neither sticky nor a date. -/
theorem mem_persons_iff {t name : Text} :
    name ∈ (ofText t).persons ↔
      name ∈ Tag.bodies t ∧ name ≠ Tag.stickyBody ∧ ∀ kind date, ¬ Tag.IsDate name kind date := by
  rw [mem_persons_ofText, Tag.inText, List.mem_map]
  constructor
  · rintro ⟨body, hm, hb⟩
    obtain ⟨rfl, hperson⟩ := (Tag.ofBody_eq_person_iff (break_not_mem_of_mem_bodies hm)).mp hb
    exact ⟨hm, hperson⟩
  · rintro ⟨hm, hperson⟩
    exact ⟨name, hm, (Tag.ofBody_eq_person_iff (break_not_mem_of_mem_bodies hm)).mpr ⟨rfl, hperson⟩⟩

/-- A kind has a date among the facts of a text if it is not that of the date due and one of the
bodies is a date of it. -/
theorem mem_kinds_iff {t : Text} :
    kind ∈ (ofText t).otherDates.map Prod.fst ↔
      kind ≠ Tag.dueKind ∧ ∃ body ∈ Tag.bodies t, ∃ date, Tag.IsDate body kind date := by
  rw [← exists_firstAt_iff, List.mem_map]
  constructor
  · rintro ⟨⟨kind, date⟩, hm, rfl⟩
    obtain ⟨hkind, i, hfirst⟩ := ((keepsFirst_ofText t).others kind date).mp hm
    exact ⟨hkind, i, date, hfirst⟩
  · rintro ⟨hkind, i, date, hfirst⟩
    exact ⟨(kind, date), ((keepsFirst_ofText t).others kind date).mpr ⟨hkind, i, hfirst⟩, rfl⟩

/-- A text has no date due if none of the bodies is one. -/
theorem dueDate_eq_none_iff {t : Text} :
    (ofText t).dueDate = none ↔
      ∀ body ∈ Tag.bodies t, ∀ date, ¬ Tag.IsDate body Tag.dueKind date := by
  have hsome : (∃ date, (ofText t).dueDate = some date) ↔
      ∃ body ∈ Tag.bodies t, ∃ date, Tag.IsDate body Tag.dueKind date := by
    simp only [(keepsFirst_ofText t).due]
    rw [exists_comm, exists_firstAt_iff]
  rw [← Option.not_isSome_iff_eq_none, Option.isSome_iff_exists, hsome]
  push Not
  rfl

/-- The tags of a text are classified one by one: each body is sticky, or a date of one kind, or
else a person. A text is sticky if it has a sticky body. It has the first date due and the first
date of every other kind, in the order of these first dates. Its persons are the bodies that
remain, and a body in the shape of a date that is no day is always one of them. -/
theorem ofText_classifies (t : Text) :
    (∀ body ∈ Tag.bodies t,
      (Tag.ofBody body = .sticky ↔ body = Tag.stickyBody) ∧
      (∀ kind date, Tag.ofBody body = .date kind date ↔
        body ≠ Tag.stickyBody ∧ Tag.IsDate body kind date) ∧
      (∀ name, Tag.ofBody body = .person name ↔
        name = body ∧ body ≠ Tag.stickyBody ∧ ∀ kind date, ¬ Tag.IsDate body kind date)) ∧
    ((ofText t).sticky = true ↔ Tag.stickyBody ∈ Tag.bodies t) ∧
    (∀ date, (ofText t).dueDate = some date ↔ ∃ i, FirstAt (Tag.bodies t) Tag.dueKind i date) ∧
    ((ofText t).dueDate = none ↔
      ∀ body ∈ Tag.bodies t, ∀ date, ¬ Tag.IsDate body Tag.dueKind date) ∧
    (∀ kind, kind ∈ (ofText t).otherDates.map Prod.fst ↔
      kind ≠ Tag.dueKind ∧ ∃ body ∈ Tag.bodies t, ∃ date, Tag.IsDate body kind date) ∧
    (∀ kind date, (kind, date) ∈ (ofText t).otherDates ↔
      kind ≠ Tag.dueKind ∧ ∃ i, FirstAt (Tag.bodies t) kind i date) ∧
    (ofText t).otherDates.Pairwise (fun p q => ∃ i j, i < j ∧
      FirstAt (Tag.bodies t) p.1 i p.2 ∧ FirstAt (Tag.bodies t) q.1 j q.2) ∧
    (∀ name, name ∈ (ofText t).persons ↔
      name ∈ Tag.bodies t ∧ name ≠ Tag.stickyBody ∧ ∀ kind date, ¬ Tag.IsDate name kind date) ∧
    (ofText t).persons.Pairwise (· < ·) ∧
    ∀ body ∈ Tag.bodies t, ∀ kind value year month day,
      Tag.Holds body kind value → Date.HasShape value year month day →
      (∀ date : Date, ¬ (date.year = year ∧ date.month = month ∧ date.day = day)) →
      body ∈ (ofText t).persons := by
  have hkeeps := keepsFirst_ofText t
  refine ⟨?_, sticky_ofText, hkeeps.due, dueDate_eq_none_iff, fun _ => mem_kinds_iff,
    hkeeps.others, hkeeps.order, fun _ => mem_persons_iff,
    pairwise_persons_foldl _ List.Pairwise.nil, ?_⟩
  · intro body hm
    have hbreak := break_not_mem_of_mem_bodies hm
    refine ⟨Tag.ofBody_eq_sticky_iff, fun kind date => ?_, fun name =>
      Tag.ofBody_eq_person_iff hbreak⟩
    rw [Tag.ofBody_eq_date_iff hbreak]
    exact (and_iff_right_of_imp Tag.IsDate.ne_stickyBody).symm
  · intro body hm kind value year month day hholds hshape hno
    rw [mem_persons_ofText, Tag.inText, List.mem_map]
    exact ⟨body, hm, hholds.ofBody_eq_person hshape hno⟩

/-- A text with a date due, two dates of another kind in different case, a person, a date that is
no day, and the sticky tag. -/
def errandText : Text :=
  "(@Due:1-3-2025 @2025-02-30 @start=2025-03-05 @sticky @START:2025-05-05 @Karl".toList

/-- The bodies of its tags, and the dates and persons that they state. -/
theorem errandText_facts :
    Tag.bodies errandText = ["Due:1-3-2025".toList, "2025-02-30".toList,
      "start=2025-03-05".toList, "sticky".toList, "START:2025-05-05".toList, "Karl".toList] ∧
    (ofText errandText).dueDate = Date.of? 2025 3 1 ∧
    (ofText errandText).otherDates.map (fun p => (p.1, some p.2)) =
      [("start".toList, Date.of? 2025 3 5)] ∧
    (ofText errandText).persons = ["2025-02-30".toList, "Karl".toList] := by
  decide +kernel

/-- The tags of the errand are classified by the laws above. -/
theorem errandText_classified :
    (ofText errandText).sticky = true ∧
    (∃ i date, FirstAt (Tag.bodies errandText) Tag.dueKind i date) ∧
    (∃ body ∈ Tag.bodies errandText, ∃ date, Tag.IsDate body "start".toList date) ∧
    "2025-02-30".toList ∈ (ofText errandText).persons := by
  obtain ⟨-, hsticky, hdue, -, hkinds, -, -, -, -, hshaped⟩ := ofText_classifies errandText
  obtain ⟨hbodies, hdate, hothers, -⟩ := errandText_facts
  have hkind : (ofText errandText).otherDates.map Prod.fst = ["start".toList] := by
    simpa using congrArg (List.map Prod.fst) hothers
  have htext : "2025-02-30".toList = "2025".toList ++ '-' :: ("02".toList ++ '-' :: "30".toList) := by
    decide
  have hshape : Date.HasShape "2025-02-30".toList 2025 2 30 := by
    rw [htext]
    exact .yearFirst ⟨Text.writesNumber_iff.mpr (by decide), by decide⟩
      ⟨Text.writesNumber_iff.mpr (by decide), by decide⟩
      ⟨Text.writesNumber_iff.mpr (by decide), by decide⟩
  refine ⟨hsticky.mpr (by rw [hbodies]; decide), ?_, ?_, ?_⟩
  · obtain ⟨date, hsome⟩ : ∃ date, Date.of? 2025 3 1 = some date := ⟨_, rfl⟩
    obtain ⟨i, hfirst⟩ := (hdue date).mp (hdate.trans hsome)
    exact ⟨i, date, hfirst⟩
  · exact ((hkinds _).mp (by rw [hkind]; exact List.mem_singleton.mpr rfl)).2
  · refine hshaped _ (by rw [hbodies]; decide) _ _ _ _ _ (.bare _) hshape ?_
    rintro date ⟨hy, hm, hd⟩
    have hday := date.day_bounds.2
    rw [hy, hm, hd] at hday
    exact absurd hday (by decide)

end GatherBoard.Facts
