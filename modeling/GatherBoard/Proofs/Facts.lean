import GatherBoard.Facts
import Mathlib.Tactic.SplitIfs

/-!
# What the tags of a text state

The facts of a text are collected tag by tag. One sticky tag makes the card
sticky, every person that is named is kept, and of the due dates the first one.
-/

namespace GatherBoard

/-- What the tags of a text say, in order. -/
def Tag.inText (t : Text) : List Tag := (Tag.bodies t).map Tag.ofBody

/-- The due date that a tag states. -/
def Tag.dueDate? : Tag → Option Date
  | .date kind day => if kind = dueKind then some day else none
  | .sticky | .person _ => none

/-- The only sticky tag is the one with the sticky body. -/
theorem Tag.ofBody_eq_sticky_iff {body : Text} : Tag.ofBody body = .sticky ↔ body = stickyBody := by
  unfold Tag.ofBody
  by_cases hb : body = stickyBody
  · simp [hb]
  · cases hd : readDate? body with
    | none => simp [hb]
    | some dated => simp [hb]

/-- A text has the sticky tag if one of its bodies is the sticky one. -/
theorem Tag.sticky_mem_inText {t : Text} : Tag.sticky ∈ Tag.inText t ↔ stickyBody ∈ Tag.bodies t := by
  simp only [Tag.inText, List.mem_map, Tag.ofBody_eq_sticky_iff, exists_eq_right]

/-- A tag states a due date if it is a date of the kind for dates due. -/
theorem Tag.dueDate?_eq_some_iff {tag : Tag} {day : Date} :
    tag.dueDate? = some day ↔ tag = .date dueKind day := by
  cases tag with
  | sticky => simp [dueDate?]
  | person name => simp [dueDate?]
  | date kind day' =>
    by_cases hk : kind = dueKind <;> simp [dueDate?, hk]

namespace Facts

/-- Noting a date does not make a card sticky. -/
@[simp]
theorem sticky_addDate (facts : Facts) (kind : Text) (day : Date) :
    (facts.addDate kind day).sticky = facts.sticky := by
  unfold addDate
  split_ifs <;> rfl

/-- Noting a date leaves the persons as they are. -/
@[simp]
theorem persons_addDate (facts : Facts) (kind : Text) (day : Date) :
    (facts.addDate kind day).persons = facts.persons := by
  unfold addDate
  split_ifs <;> rfl

/-- A card is sticky if one of the tags is. -/
theorem sticky_foldl (facts : Facts) (tags : List Tag) :
    (tags.foldl addTag facts).sticky = true ↔ facts.sticky = true ∨ Tag.sticky ∈ tags := by
  induction tags generalizing facts with
  | nil => simp
  | cons tag tags ih =>
    rw [List.foldl_cons, ih, List.mem_cons]
    cases tag with
    | sticky => simp [addTag]
    | person name => simp [addTag]
    | date kind day => simp [addTag]

/-- The persons are those that the tags name. -/
theorem mem_persons_foldl (facts : Facts) (tags : List Tag) (name : Text) :
    name ∈ (tags.foldl addTag facts).persons ↔
      name ∈ facts.persons ∨ Tag.person name ∈ tags := by
  induction tags generalizing facts with
  | nil => simp
  | cons tag tags ih =>
    rw [List.foldl_cons, ih, List.mem_cons]
    cases tag with
    | sticky => simp [addTag]
    | person other => simp [addTag, mem_insertName, or_assoc, or_left_comm]
    | date kind day => simp [addTag]

/-- The due date is the first that a tag states. -/
theorem dueDate_foldl (facts : Facts) (tags : List Tag) :
    (tags.foldl addTag facts).dueDate = (facts.dueDate <|> tags.findSome? Tag.dueDate?) := by
  induction tags generalizing facts with
  | nil => simp
  | cons tag tags ih =>
    rw [List.foldl_cons, ih, List.findSome?_cons]
    cases tag with
    | sticky => rfl
    | person name => rfl
    | date kind day =>
      by_cases hk : kind = Tag.dueKind
      · cases hd : facts.dueDate <;> simp [addTag, addDate, Tag.dueDate?, hk, hd]
      · have hd : (facts.addDate kind day).dueDate = facts.dueDate := by
          unfold addDate
          rw [if_neg hk]
          split <;> rfl
        simp [addTag, Tag.dueDate?, hk, hd]

/-- The facts of a text are those of its tags. -/
theorem ofText_eq (t : Text) : ofText t = (Tag.inText t).foldl addTag empty := rfl

/-- The card of a text is sticky if the text has the sticky tag. -/
theorem sticky_ofText {t : Text} : (ofText t).sticky = true ↔ Tag.stickyBody ∈ Tag.bodies t := by
  rw [ofText_eq, sticky_foldl, Tag.sticky_mem_inText]
  simp [empty]

/-- The persons of a text are those that its tags name. -/
theorem mem_persons_ofText {t name : Text} :
    name ∈ (ofText t).persons ↔ Tag.person name ∈ Tag.inText t := by
  rw [ofText_eq, mem_persons_foldl]
  simp [empty]

/-- The due date of a text is the first that its tags state. -/
theorem dueDate_ofText (t : Text) :
    (ofText t).dueDate = (Tag.inText t).findSome? Tag.dueDate? := by
  rw [ofText_eq, dueDate_foldl]
  simp [empty]

/-- A text has a due date if one of its tags states one. -/
theorem isSome_dueDate_ofText {t : Text} :
    (ofText t).dueDate.isSome = true ↔ ∃ day, Tag.date Tag.dueKind day ∈ Tag.inText t := by
  rw [dueDate_ofText, List.findSome?_isSome_iff]
  simp only [Option.isSome_iff_exists, Tag.dueDate?_eq_some_iff]
  constructor
  · rintro ⟨tag, hm, day, rfl⟩
    exact ⟨day, hm⟩
  · rintro ⟨day, hm⟩
    exact ⟨_, hm, day, rfl⟩

/-- A text has attributes if one of its tags states a due date or a person. -/
theorem hasAttributes_ofText {t : Text} :
    (ofText t).hasAttributes = true ↔
      (∃ day, Tag.date Tag.dueKind day ∈ Tag.inText t) ∨ ∃ name, Tag.person name ∈ Tag.inText t := by
  have hp : (ofText t).persons.isEmpty = false ↔ ∃ name, Tag.person name ∈ Tag.inText t := by
    simp only [← mem_persons_ofText, List.isEmpty_eq_false_iff_exists_mem]
  rw [hasAttributes, Bool.or_eq_true, Bool.not_eq_true', hp, isSome_dueDate_ofText]

end Facts

end GatherBoard
