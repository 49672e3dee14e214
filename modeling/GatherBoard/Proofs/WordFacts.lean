import GatherBoard.Board
import GatherBoard.Proofs.FirstDates
import GatherBoard.Proofs.Text.Cuts
import GatherBoard.Proofs.Text.Trimming
import Mathlib.Data.List.Sort

/-!
# Facts word by word

A tag never reaches beyond its word, and a word has one tag at most: what stands after its first
at sign. The facts of a text are therefore those of its words, whatever white space is between
them, and the facts of two texts put together are those of the first with what only the second
adds. A description adds facts to those of the title and takes none away.
-/

namespace GatherBoard

namespace Tag

/-- What stands after the first at sign of a word, if anything does. -/
def bodyOfWord? : Text → Option Text
  | [] => none
  | c :: rest => if c = '@' then (if rest.isEmpty then none else some rest) else bodyOfWord? rest

variable {body word t : Text} {c : Char} {skip : Nat}

/-- The tag of a word has something in it and begins at the first at sign. -/
theorem bodyOfWord?_eq_some_iff :
    bodyOfWord? word = some body ↔
      body ≠ [] ∧ ∃ before, '@' ∉ before ∧ word = before ++ '@' :: body := by
  induction word with
  | nil => simp [bodyOfWord?]
  | cons c rest ih =>
    rw [bodyOfWord?]
    by_cases hc : c = '@'
    · rw [if_pos hc, Option.ite_none_left_eq_some, List.isEmpty_iff, Option.some.injEq]
      constructor
      · rintro ⟨hne, rfl⟩
        exact ⟨hne, [], List.not_mem_nil, by rw [hc, List.nil_append]⟩
      · rintro ⟨hne, before, hno, he⟩
        cases before with
        | nil => exact ⟨(List.cons.inj he).2 ▸ hne, (List.cons.inj he).2⟩
        | cons d before =>
          obtain ⟨rfl, -⟩ := List.cons.inj he
          exact absurd (hc ▸ List.mem_cons_self) hno
    · rw [if_neg hc, ih]
      refine and_congr_right fun _ => ?_
      constructor
      · rintro ⟨before, hno, rfl⟩
        refine ⟨c :: before, ?_, rfl⟩
        rw [List.mem_cons, not_or]
        exact ⟨Ne.symm hc, hno⟩
      · rintro ⟨before, hno, he⟩
        cases before with
        | nil => exact absurd (List.cons.inj he).1 hc
        | cons d before =>
          rw [List.mem_cons, not_or] at hno
          exact ⟨before, hno.2, (List.cons.inj he).2⟩

/-- A tag ends at white space. -/
theorem takeWhile_append_blank (hc : Text.isBlank c = true) (t u : Text) :
    (t ++ c :: u).takeWhile (fun c => !Text.isBlank c) = t.takeWhile fun c => !Text.isBlank c := by
  induction t with
  | nil => simp [hc]
  | cons d t ih =>
    rw [List.cons_append, List.takeWhile_cons, List.takeWhile_cons, ih]

/-- The scan for tags begins anew after white space. -/
theorem bodiesFrom_append_blank (hc : Text.isBlank c = true) (u : Text) (hskip : skip ≤ t.length) :
    bodiesFrom skip (t ++ c :: u) = bodiesFrom skip t ++ bodies u := by
  have hat : c ≠ '@' := by
    rintro rfl
    exact absurd hc (by decide)
  fun_induction bodiesFrom skip t with
  | case1 skip =>
    obtain rfl : skip = 0 := Nat.le_zero.mp hskip
    rw [List.nil_append, List.nil_append, bodiesFrom, if_neg hat]
    rfl
  | case2 skip d rest ih => exact ih (Nat.le_of_succ_le_succ hskip)
  | case3 rest taken hempty ih =>
    have htaken : ((rest ++ c :: u).takeWhile fun c => !Text.isBlank c).isEmpty = true := by
      rw [takeWhile_append_blank hc]
      exact hempty
    rw [List.cons_append, bodiesFrom, if_pos rfl]
    simp only [htaken, ↓reduceIte]
    exact ih (Nat.zero_le _)
  | case4 rest taken hempty ih =>
    have htaken : (rest ++ c :: u).takeWhile (fun c => !Text.isBlank c) = taken :=
      takeWhile_append_blank hc rest u
    have hlength : taken.length ≤ rest.length := (List.takeWhile_sublist _).length_le
    rw [List.cons_append, bodiesFrom, if_pos rfl]
    simp only [htaken, hempty, Bool.false_eq_true, ↓reduceIte]
    rw [ih hlength, List.cons_append]
  | case5 d rest hd ih =>
    rw [List.cons_append, bodiesFrom, if_neg hd]
    exact ih (Nat.zero_le _)

/-- Nothing is left to scan of a text that is skipped. -/
theorem bodiesFrom_length (t : Text) : bodiesFrom t.length t = [] := by
  induction t with
  | nil => rfl
  | cons c t ih => exact ih

/-- A word has no other tag than the one after its first at sign. -/
theorem bodies_of_word (h : ∀ c ∈ word, Text.isBlank c = false) :
    bodies word = (bodyOfWord? word).toList := by
  induction word with
  | nil => rfl
  | cons c rest ih =>
    rw [List.forall_mem_cons] at h
    rw [bodies, bodiesFrom, bodyOfWord?]
    by_cases hc : c = '@'
    · have hrest : rest.takeWhile (fun c => !Text.isBlank c) = rest := by
        rw [List.takeWhile_eq_self_iff]
        exact fun d hd => by rw [h.2 d hd, Bool.not_false]
      rw [if_pos hc, if_pos hc, hrest]
      cases rest with
      | nil => rfl
      | cons d more =>
        simp only [List.isEmpty_cons, Bool.false_eq_true, ↓reduceIte, bodiesFrom_length]
        rfl
    · rw [if_neg hc, if_neg hc]
      exact ih h.2

/-- The tags of a text are those of its words. -/
theorem bodies_eq_filterMap (t : Text) : bodies t = (Text.words t).filterMap bodyOfWord? := by
  have happend (s : Text) (c : Char) (u : Text) (hc : Text.isBlank c = true) :
      bodies (s ++ c :: u) = bodies s ++ bodies u := bodiesFrom_append_blank hc u (Nat.zero_le _)
  rw [Text.eq_flatMap_words (f := bodies) rfl happend, List.filterMap_eq_flatMap_toList]
  exact List.flatMap_congr fun word hm => bodies_of_word (Text.mem_words hm).2.2

end Tag

namespace Facts

attribute [ext] Facts

/-- Facts together with further ones, which count where the first say nothing. -/
def merge (first second : Facts) : Facts where
  dueDate := first.dueDate <|> second.dueDate
  otherDates := first.otherDates ++
    second.otherDates.filter fun dated => !first.otherDates.any (·.1 == dated.1)
  persons := second.persons.foldr insertName first.persons
  sticky := first.sticky || second.sticky

/-- Some facts hold all that other facts do and change none of it. -/
structure Extends (more facts : Facts) : Prop where
  dueDate : ∀ day, facts.dueDate = some day → more.dueDate = some day
  otherDates : ∀ kind day, facts.otherDates.lookup kind = some day →
    more.otherDates.lookup kind = some day
  order : facts.otherDates <+: more.otherDates
  persons : facts.persons ⊆ more.persons
  sticky : facts.sticky = true → more.sticky = true

variable {facts first second : Facts} {name kind : Text} {day : Date}

/-- The names of two sets of persons together. -/
theorem mem_foldr_insertName {names more : List Text} :
    name ∈ more.foldr insertName names ↔ name ∈ names ∨ name ∈ more := by
  induction more with
  | nil => simp
  | cons other more ih => rw [List.foldr_cons, mem_insertName, ih, List.mem_cons, or_left_comm]

/-- The persons of merged facts are those of both. -/
theorem mem_persons_merge :
    name ∈ (first.merge second).persons ↔ name ∈ first.persons ∨ name ∈ second.persons :=
  mem_foldr_insertName

/-- Two sets of persons together are in the order of their names. -/
theorem pairwise_foldr_insertName {names : List Text} (more : List Text)
    (h : names.Pairwise (· < ·)) : (more.foldr insertName names).Pairwise (· < ·) := by
  induction more with
  | nil => exact h
  | cons other more ih => exact pairwise_insertName ih other

/-- Merged facts extend the first. -/
theorem extends_merge (first second : Facts) : (first.merge second).Extends first where
  dueDate day h := by rw [merge, h, Option.orElse_eq_orElse, Option.orElse_some]
  otherDates kind day h := by rw [merge, List.lookup_append, h, Option.some_or]
  order := List.prefix_append _ _
  persons name h := mem_persons_merge.mpr (Or.inl h)
  sticky h := by rw [merge, h, Bool.true_or]

/-- Facts extend themselves. -/
theorem Extends.refl (facts : Facts) : facts.Extends facts :=
  ⟨fun _ => id, fun _ _ => id, List.prefix_rfl, List.Subset.refl _, id⟩

/-- A date is noted among the others if its kind is not the one for dates due and is not yet
known. -/
theorem otherDates_addDate (facts : Facts) (kind : Text) (day : Date) :
    (facts.addDate kind day).otherDates =
      if kind = Tag.dueKind ∨ facts.otherDates.any (·.1 == kind) = true then facts.otherDates
      else facts.otherDates ++ [(kind, day)] := by
  unfold addDate
  by_cases hdue : kind = Tag.dueKind
  · rw [if_pos hdue, if_pos (Or.inl hdue)]
  · by_cases hknown : facts.otherDates.any (·.1 == kind) = true
    · rw [if_neg hdue, if_pos hknown, if_pos (Or.inr hknown)]
    · rw [if_neg hdue, if_neg hknown, if_neg (not_or.mpr ⟨hdue, hknown⟩)]

/-- A kind is known to merged facts if it is known to one of the two. -/
theorem any_otherDates_merge :
    (first.merge second).otherDates.any (·.1 == kind) =
      (first.otherDates.any (·.1 == kind) || second.otherDates.any (·.1 == kind)) := by
  rw [merge, List.any_append, List.any_filter, Bool.eq_iff_iff, Bool.or_eq_true, Bool.or_eq_true]
  refine or_congr_right' fun hno => ?_
  simp only [List.any_eq_true, Bool.and_eq_true, beq_iff_eq]
  refine exists_congr fun dated => and_congr_right fun _ => ?_
  constructor
  · exact fun h => h.2
  · rintro rfl
    refine ⟨?_, rfl⟩
    rw [Bool.not_eq_true', Bool.eq_false_iff]
    exact hno

/-- A further date is noted in merged facts as in the second of them. -/
theorem otherDates_merge_addDate :
    ((first.merge second).addDate kind day).otherDates =
      (first.merge (second.addDate kind day)).otherDates := by
  rw [otherDates_addDate]
  simp only [any_otherDates_merge, Bool.or_eq_true]
  unfold merge
  rw [otherDates_addDate]
  by_cases hold : kind = Tag.dueKind ∨ second.otherDates.any (·.1 == kind) = true
  · rw [if_pos hold, if_pos (hold.imp_right Or.inr)]
  · rw [if_neg hold, List.filter_append]
    rw [not_or] at hold
    by_cases hfirst : first.otherDates.any (·.1 == kind) = true
    · -- the date is noted in the second and struck out again in the merged facts
      rw [if_pos (Or.inr (Or.inl hfirst)), List.filter_cons_of_neg (by simp [hfirst]),
        List.filter_nil, List.append_nil]
    · rw [if_neg (by simp [hold.1, hold.2, hfirst]), List.filter_cons_of_pos (by simp [hfirst]),
        List.filter_nil, List.append_assoc]

/-- Tags that are noted after others add to the facts what they state by themselves. -/
theorem foldl_addTag_eq_merge (h : facts.persons.Pairwise (· < ·)) (tags : List Tag) :
    tags.foldl addTag facts = facts.merge (tags.foldl addTag empty) := by
  refine Facts.ext ?_ ?_ ?_ ?_
  · rw [merge, dueDate_foldl, dueDate_foldl]
    rfl
  · -- from the end: each further date is noted on both sides or on none
    induction tags using List.reverseRecOn with
    | nil => simp [merge, empty]
    | append_singleton tags tag ih =>
      rw [List.foldl_append, List.foldl_append, List.foldl_cons, List.foldl_cons, List.foldl_nil,
        List.foldl_nil]
      cases tag with
      | sticky => exact ih
      | person name => exact ih
      | date kind day =>
        rw [addTag, addTag, ← otherDates_merge_addDate, otherDates_addDate, ih, otherDates_addDate]
  · have hmerged := pairwise_foldr_insertName (tags.foldl addTag empty).persons h
    refine (pairwise_persons_foldl tags h).eq_of_mem_iff hmerged fun name => ?_
    rw [mem_persons_foldl, mem_persons_merge, mem_persons_foldl]
    simp [empty]
  · rw [Bool.eq_iff_iff, merge, Bool.or_eq_true, sticky_foldl, sticky_foldl]
    simp [empty]

/-- The facts of two texts with white space between them are merged. -/
theorem ofText_append {w : Text} (hne : w ≠ []) (hw : Text.AllBlank w) (a b : Text) :
    ofText (a ++ (w ++ b)) = (ofText a).merge (ofText b) := by
  have hbodies : Tag.bodies (a ++ (w ++ b)) = Tag.bodies a ++ Tag.bodies b := by
    rw [Tag.bodies_eq_filterMap, Text.words_append hne hw, List.filterMap_append,
      ← Tag.bodies_eq_filterMap, ← Tag.bodies_eq_filterMap]
  rw [ofText_eq, Tag.inText, hbodies, List.map_append, List.foldl_append]
  exact foldl_addTag_eq_merge (pairwise_persons_foldl _ List.Pairwise.nil) _

/-- A description takes away none of the facts of the title. -/
theorem extends_title (c : Card) :
    (TextSelector.factsOf TagSource.titleAndDescription c).Extends
      (TextSelector.factsOf TagSource.title c) := by
  simp only [TextSelector.factsOf, TagSource.textOf, Card.fullText]
  split
  · exact Extends.refl _
  · have hspace : Text.AllBlank [' '] := by
      intro c hc
      rw [List.mem_singleton.mp hc]
      decide
    have hmerge := ofText_append (List.cons_ne_nil ' ' []) hspace c.title c.description
    rw [List.singleton_append] at hmerge
    rw [hmerge]
    exact extends_merge _ _

/-- Facts are local to words. The tags of a text are found word by word, each after the first
at sign of its word. So the facts of two texts with white space between them are merged, those
of the first text before those of the second; texts of the same words have the same facts; and
where tags are taken from the description as well, no fact of the title is lost or changed. -/
theorem ofText_word_by_word :
    (∀ t, Tag.bodies t = (Text.words t).filterMap Tag.bodyOfWord?) ∧
    (∀ word body, Tag.bodyOfWord? word = some body ↔
      body ≠ [] ∧ ∃ before, '@' ∉ before ∧ word = before ++ '@' :: body) ∧
    (∀ a w b, w ≠ [] → Text.AllBlank w → ofText (a ++ (w ++ b)) = (ofText a).merge (ofText b)) ∧
    (∀ first second : Facts, ∀ name,
      name ∈ (first.merge second).persons ↔ name ∈ first.persons ∨ name ∈ second.persons) ∧
    (∀ t t', Text.words t = Text.words t' → ofText t = ofText t') ∧
    ∀ c, (TextSelector.factsOf TagSource.titleAndDescription c).Extends
      (TextSelector.factsOf TagSource.title c) := by
  refine ⟨Tag.bodies_eq_filterMap, fun _ _ => Tag.bodyOfWord?_eq_some_iff,
    fun a w b hne hw => ofText_append hne hw a b, fun _ _ _ => mem_persons_merge, ?_, extends_title⟩
  intro t t' hwords
  rw [ofText, ofText, Tag.bodies_eq_filterMap, Tag.bodies_eq_filterMap, hwords]

/-- A text with a date due in brackets, a name with an at sign of its own, and an at sign alone. -/
def noteText : Text := "(@due:1-7-2031 @@ann @".toList

/-- A text with another date due, a tag inside a word, a date of another kind and the sticky
tag. -/
def replyText : Text := "x@bob @DUE=2031-07-02 @start=2031-07-03 @sticky".toList

/-- Two kinds of white space. -/
def gapText : Text := [Char.ofNat 0x2003, '\n']

/-- The two texts are merged: the first date due counts. -/
theorem noteText_merged :
    (gapText ≠ [] ∧ Text.AllBlank gapText ∧
      ofText (noteText ++ (gapText ++ replyText)) = (ofText noteText).merge (ofText replyText)) ∧
    (ofText (noteText ++ (gapText ++ replyText))).dueDate = Date.of? 2031 7 1 ∧
    (ofText (noteText ++ (gapText ++ replyText))).persons = ["@ann".toList, "bob".toList] ∧
    Text.words (noteText ++ (gapText ++ replyText)) = Text.words (noteText ++ ' ' :: replyText) ∧
    ofText (noteText ++ (gapText ++ replyText)) = ofText (noteText ++ ' ' :: replyText) := by
  obtain ⟨-, -, hmerge, -, hwords, -⟩ := ofText_word_by_word
  have hne : gapText ≠ [] := by decide
  have hblank : Text.AllBlank gapText := List.all_eq_true.mp (by decide)
  have hsame : Text.words (noteText ++ (gapText ++ replyText)) =
      Text.words (noteText ++ ' ' :: replyText) := by
    decide +kernel
  exact ⟨⟨hne, hblank, hmerge _ _ _ hne hblank⟩, by decide +kernel, by decide +kernel, hsame,
    hwords _ _ hsame⟩

end Facts

end GatherBoard
