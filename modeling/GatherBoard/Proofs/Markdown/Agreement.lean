import GatherBoard.Markdown.Reader
import GatherBoard.Proofs.Markdown.TrimmedLines
import GatherBoard.Proofs.Places

/-!
# Outlines that read alike

Two outlines agree if the same columns are made of them, whatever text is put
above them. Blank lines at the end of a body and white space at the end of its
last other line do not matter, unless trimming changes what this line is: an
empty heading is none any more when its last space is gone.
-/

namespace GatherBoard.Markdown

open Text

/-- What is read of an item: the text after its mark and the description. -/
def Item.content (item : Item) : Text × Text := (trim (item.line.drop 2), describe item.notes)

/-- What is read of a section: the heading and the items. -/
def Section.content (s : Section) : Text × List (Text × Text) :=
  (s.heading, s.items.map Item.content)

/-- The card that is made of what was read. -/
def cardOf (content : Text × Text) (id : Text) : Card :=
  ⟨id, (readBox content.1).2, content.2, (readBox content.1).1⟩

/-- The column that is made of what was read. -/
def columnOf (content : Text × List (Text × Text)) (id : Text) : Column :=
  ⟨id, content.1, content.2.mapIdx fun i card => cardOf card (cardId id (i + 1))⟩

/-- A column depends on its section only through what is read of it. -/
theorem Section.column_eq (s : Section) (id : Text) : s.column id = columnOf s.content id := by
  unfold Section.column columnOf Section.content
  rw [mapIdx_map]
  rfl

/-- A description made of lines with their starts trimmed. -/
theorem describe_append_singleton (ls : List Text) (l : Text) :
    describe (ls ++ [l]) = trimEnd ((ls.map trimStart).flatMap line ++ trimStart l) := by
  unfold describe
  rw [List.map_append, List.map_singleton]
  by_cases h : ls = []
  · simp [h]
  · congr 1
    have hn : ls.map trimStart ≠ [] := by simpa using h
    induction ls with
    | nil => exact absurd rfl h
    | cons m ls ih =>
      by_cases hm : ls = []
      · simp [hm, unlines_cons, line]
      · have hi := ih hm (by simpa using hm)
        rw [List.map_cons, List.cons_append, unlines_cons _ (by simp), hi, List.flatMap_cons, line]
        simp

/-- A blank line at the end of a description is lost. -/
theorem describe_append_blank (ls : List Text) {l : Text} (hl : AllBlank l) :
    describe (ls ++ [l]) = describe ls := by
  rw [describe_append_singleton, trimStart_eq_nil_iff.mpr hl, List.append_nil]
  unfold describe
  by_cases h : ls.map trimStart = []
  · rw [h]
    rfl
  · rw [flatMap_line_eq h, trimEnd_line]

/-- Blank lines at the end of a description are lost. -/
theorem describe_append_blanks (ls : List Text) {bs : List Text} (hb : ∀ l ∈ bs, AllBlank l) :
    describe (ls ++ bs) = describe ls := by
  induction bs generalizing ls with
  | nil => rw [List.append_nil]
  | cons b bs ih =>
    have hi := ih (ls ++ [b]) (fun l hl => hb l (List.mem_cons_of_mem _ hl))
    rw [List.append_assoc, List.singleton_append] at hi
    rw [hi, describe_append_blank ls (hb b List.mem_cons_self)]

/-- White space at the end of a description is lost. -/
theorem describe_append_trimEnd (ls : List Text) (l : Text) :
    describe (ls ++ [trimEnd l]) = describe (ls ++ [l]) := by
  obtain ⟨w, hw, hl⟩ := exists_trimEnd_append l
  rw [describe_append_singleton, describe_append_singleton]
  by_cases hb : AllBlank l
  · rw [trimEnd_eq_nil_iff.mpr hb, trimStart_eq_nil_iff.mpr hb]
    rfl
  · have he : (List.dropWhile isBlank (trimEnd l)).isEmpty = false := by
      rw [List.isEmpty_eq_false_iff, ← trimStart]
      intro hn
      have ht : AllBlank (trimEnd l) := trimStart_eq_nil_iff.mp hn
      apply hb
      rw [hl, allBlank_append]
      exact ⟨ht, hw⟩
    have hs : trimStart l = trimStart (trimEnd l) ++ w := by
      conv_lhs => rw [hl, trimStart, List.dropWhile_append, he]
      rfl
    rw [hs, ← List.append_assoc, trimEnd_append_of_allBlank _ hw]

/-- The text of an item does not depend on white space at the end of its line. -/
theorem trim_drop_trimEnd (l : Text) (n : Nat) : trim ((trimEnd l).drop n) = trim (l.drop n) := by
  obtain ⟨w, hw, hl⟩ := exists_trimEnd_append l
  have hd : AllBlank (w.drop (n - (trimEnd l).length)) :=
    fun c hc => hw c (List.mem_of_mem_drop hc)
  conv_rhs => rw [hl, List.drop_append, trim_append_of_allBlank _ hd]

/-- Two outlines of which the same is read, whatever text is put above. -/
structure Agree (o o' : Outline) : Prop where
  /-- The text at the top continues every description in the same way. -/
  notes : ∀ above, describe (above ++ o.notes) = describe (above ++ o'.notes)
  /-- The items at the top read the same. -/
  items : o.items.map Item.content = o'.items.map Item.content
  /-- The sections read the same. -/
  sections : o.sections.map Section.content = o'.sections.map Section.content

/-- Each outline agrees with itself. -/
theorem Agree.refl (o : Outline) : Agree o o := ⟨fun _ => rfl, rfl, rfl⟩

/-- One mark above two outlines that agree keeps them so. -/
theorem Agree.addAbove {o o' : Outline} (h : Agree o o') (mark : Mark) :
    Agree (Outline.addAbove mark o) (Outline.addAbove mark o') := by
  cases mark with
  | title t => exact ⟨fun _ => rfl, h.items, h.sections⟩
  | heading t =>
    refine ⟨fun _ => rfl, rfl, ?_⟩
    simp [Outline.addAbove, Section.content, h.items, h.sections]
  | item l =>
    have hn := h.notes []
    refine ⟨fun _ => rfl, ?_, h.sections⟩
    simpa [Outline.addAbove, Item.content, h.items] using hn
  | plain l =>
    refine ⟨fun above => ?_, h.items, h.sections⟩
    have hn := h.notes (above ++ [l])
    simpa [Outline.addAbove] using hn

/-- Two lists of marks of which the same title and columns are read. -/
structure ReadAlike (ms ms' : List Mark) : Prop where
  outline : Agree (Outline.ofMarks ms) (Outline.ofMarks ms')
  title : titleOf ms = titleOf ms'

/-- The title after one more mark at the start. -/
theorem titleOf_cons (mark : Mark) (ms : List Mark) :
    titleOf (mark :: ms) =
      match mark with
      | .title t => if t.isEmpty then titleOf ms else t
      | _ => titleOf ms := by
  cases mark with
  | title t =>
    by_cases h : t.isEmpty = true
    · simp only [titleOf, List.findSome?_cons, h, ↓reduceIte]
    · simp only [titleOf, List.findSome?_cons, h]
      rfl
  | heading t => rfl
  | item l => rfl
  | plain l => rfl

/-- One mark above lists that read alike keeps them so. -/
theorem ReadAlike.cons {ms ms' : List Mark} (h : ReadAlike ms ms') (mark : Mark) :
    ReadAlike (mark :: ms) (mark :: ms') := by
  refine ⟨h.outline.addAbove mark, ?_⟩
  rw [titleOf_cons, titleOf_cons, h.title]

/-- Reading alike has no direction. -/
theorem ReadAlike.symm {ms ms' : List Mark} (h : ReadAlike ms ms') : ReadAlike ms' ms where
  outline :=
    ⟨fun above => (h.outline.notes above).symm, h.outline.items.symm, h.outline.sections.symm⟩
  title := h.title.symm

/-- A line that starts with no mark is plain. -/
theorem ofLine_eq_plain {l : Text} (h : ∀ c ∈ l.head?, c ≠ '#' ∧ c ≠ '-') (titled : Bool) :
    Mark.ofLine titled l = .plain l := by
  cases l with
  | nil => cases titled <;> rfl
  | cons c rest =>
    obtain ⟨h1, h2⟩ := h c rfl
    cases titled <;>
      simp [Mark.ofLine, List.isPrefixOf?, titleMark, headingMark, itemMark, Ne.symm h1, Ne.symm h2]

/-- A line that starts with a dash and a space is an item. -/
theorem ofLine_itemMark (t : Text) (titled : Bool) :
    Mark.ofLine titled (itemMark ++ t) = .item (itemMark ++ t) := by
  cases titled <;> simp [Mark.ofLine, List.isPrefixOf?, titleMark, headingMark, itemMark]

/-- A line that starts as a heading is the heading with the trimmed rest. -/
theorem ofLine_headingMark (t : Text) (titled : Bool) :
    Mark.ofLine titled (headingMark ++ t) = .heading (trim t) := by
  cases titled <;> simp [Mark.ofLine, List.isPrefixOf?, titleMark, headingMark]

/-- A blank line is plain. -/
theorem ofLine_of_allBlank {l : Text} (h : AllBlank l) (titled : Bool) :
    Mark.ofLine titled l = .plain l := by
  refine ofLine_eq_plain (fun c hc => ?_) titled
  have hb : isBlank c = true := h c (List.mem_of_mem_head? hc)
  refine ⟨?_, ?_⟩ <;> rintro rfl <;> revert hb <;> decide

/-- Marks of blank lines are plain. -/
theorem marks_of_allBlank {ls : List Text} (h : ∀ l ∈ ls, AllBlank l) (titled : Bool) :
    marks titled ls = ls.map Mark.plain := by
  induction ls generalizing titled with
  | nil => rfl
  | cons l ls ih =>
    have hi := ih (fun m hm => h m (List.mem_cons_of_mem _ hm))
    rw [marks, ofLine_of_allBlank (h l List.mem_cons_self), hi, List.map_cons]

/-- The outline of plain lines is text without items. -/
theorem ofMarks_plain (ls : List Text) : Outline.ofMarks (ls.map Mark.plain) = ⟨ls, [], []⟩ := by
  induction ls with
  | nil => rfl
  | cons l ls ih =>
    unfold Outline.ofMarks at ih
    rw [Outline.ofMarks, List.map_cons, List.foldr_cons, ih]
    rfl

/-- Plain lines hold no title. -/
theorem titleOf_plain (ls : List Text) : titleOf (ls.map Mark.plain) = [] := by
  induction ls with
  | nil => rfl
  | cons l ls ih => rw [List.map_cons, titleOf_cons, ih]

/-- Plain lines read alike if they continue every description in the same way. -/
theorem readAlike_plain {ls ls' : List Text}
    (h : ∀ above, describe (above ++ ls) = describe (above ++ ls')) :
    ReadAlike (ls.map Mark.plain) (ls'.map Mark.plain) := by
  refine ⟨?_, by rw [titleOf_plain, titleOf_plain]⟩
  rw [ofMarks_plain, ofMarks_plain]
  exact ⟨h, rfl, rfl⟩

/-- Items read alike if their titles and descriptions do. -/
theorem readAlike_item {l l' : Text} {ns ns' : List Text}
    (hl : trim (l.drop 2) = trim (l'.drop 2)) (hn : describe ns = describe ns') :
    ReadAlike (.item l :: ns.map Mark.plain) (.item l' :: ns'.map Mark.plain) := by
  have ho (k : Text) (ks : List Text) :
      Outline.ofMarks (.item k :: ks.map Mark.plain) = ⟨[], [⟨k, ks⟩], []⟩ := by
    have hp := ofMarks_plain ks
    unfold Outline.ofMarks at hp
    rw [Outline.ofMarks, List.foldr_cons, hp]
    rfl
  refine ⟨?_, by rw [titleOf_cons, titleOf_cons, titleOf_plain, titleOf_plain]⟩
  rw [ho, ho]
  refine ⟨fun _ => rfl, ?_, rfl⟩
  simp only [List.map_cons, List.map_nil, Item.content, hl, hn]

/-- Blank lines read alike, however many there are. -/
theorem readAlike_of_allBlank {ls ls' : List Text} (h : ∀ l ∈ ls, AllBlank l)
    (h' : ∀ l ∈ ls', AllBlank l) (titled : Bool) :
    ReadAlike (marks titled ls) (marks titled ls') := by
  rw [marks_of_allBlank h, marks_of_allBlank h']
  refine readAlike_plain (fun above => ?_)
  rw [describe_append_blanks above h, describe_append_blanks above h']

/-- Blank lines at the end of a body are lost. -/
theorem readAlike_append_blanks (titled : Bool) (ls : List Text) {bs : List Text}
    (hb : ∀ l ∈ bs, AllBlank l) :
    ReadAlike (marks titled (ls ++ bs)) (marks titled ls) := by
  induction ls generalizing titled with
  | nil => exact readAlike_of_allBlank hb (by simp) titled
  | cons l ls ih => exact (ih _).cons _

/-- A line of which the same is read when its end is trimmed. -/
inductive KeepsMark (l : Text) : Prop where
  /-- The line is plain before and after. -/
  | plain (before : ∀ titled, Mark.ofLine titled l = .plain l)
      (after : ∀ titled, Mark.ofLine titled (trimEnd l) = .plain (trimEnd l))
  /-- The line is an item before and after. -/
  | item (before : ∀ titled, Mark.ofLine titled l = .item l)
      (after : ∀ titled, Mark.ofLine titled (trimEnd l) = .item (trimEnd l))
  /-- There is nothing to trim. -/
  | trimmed (same : trimEnd l = l)

/-- A line before blank ones may be trimmed at its end. -/
theorem KeepsMark.readAlike {l : Text} (h : KeepsMark l) {bs : List Text}
    (hb : ∀ m ∈ bs, AllBlank m) (titled : Bool) :
    ReadAlike (marks titled [trimEnd l, []]) (marks titled (l :: bs)) := by
  have hn : ∀ m ∈ [[]], AllBlank m := by simp [allBlank_nil]
  cases h with
  | plain before after =>
    have hm : marks titled (l :: bs) = (l :: bs).map Mark.plain := by
      rw [marks, before, marks_of_allBlank hb, List.map_cons]
    have hm' : marks titled [trimEnd l, []] = [trimEnd l, []].map Mark.plain := by
      rw [marks, after, marks_of_allBlank hn]
      rfl
    rw [hm, hm']
    refine readAlike_plain (fun above => ?_)
    calc describe (above ++ [trimEnd l, []])
        = describe ((above ++ [trimEnd l]) ++ [[]]) := by simp
      _ = describe (above ++ [l]) := by
          rw [describe_append_blanks _ hn, describe_append_trimEnd]
      _ = describe ((above ++ [l]) ++ bs) := (describe_append_blanks _ hb).symm
      _ = describe (above ++ l :: bs) := by simp
  | item before after =>
    have hm : marks titled (l :: bs) = .item l :: bs.map Mark.plain := by
      rw [marks, before, marks_of_allBlank hb]
    have hm' : marks titled [trimEnd l, []] = .item (trimEnd l) :: [[]].map Mark.plain := by
      rw [marks, after, marks_of_allBlank hn]
    rw [hm, hm']
    exact readAlike_item (trim_drop_trimEnd l 2)
      ((describe_append_blanks [] hn).trans (describe_append_blanks [] hb).symm)
  | trimmed same =>
    rw [same]
    exact (readAlike_of_allBlank hn hb _).cons _

/-- Every line with only blank ones after it keeps its mark when trimmed. -/
def EndKept (ls : List Text) : Prop :=
  ∀ before l after, ls = before ++ l :: after → (∀ m ∈ after, AllBlank m) → KeepsMark l

/-- The end of a list of lines is kept if that of a longer one is. -/
theorem EndKept.of_cons {l : Text} {ls : List Text} (h : EndKept (l :: ls)) : EndKept ls :=
  fun before m after he hb => h (l :: before) m after (by rw [he, List.cons_append]) hb

/-- The end is kept if every line keeps its mark. -/
theorem endKept_of_forall {ls : List Text} (h : ∀ l ∈ ls, KeepsMark l) : EndKept ls := by
  intro before l after he _
  exact h l (by rw [he]; simp)

/-- Lines in front do not matter if not all lines after them are blank. -/
theorem EndKept.append {ys : List Text} (h : EndKept ys) (hn : trimLines ys ≠ []) (xs : List Text) :
    EndKept (xs ++ ys) := by
  intro before l after he hb
  rcases List.append_eq_append_iff.mp he.symm with ⟨ms, hms, hms'⟩ | ⟨ms, hms, hms'⟩
  · -- the line stands in front: then all lines after it are blank, against the assumption
    cases ms with
    | nil => exact h [] l after (by simpa using hms'.symm) hb
    | cons m ms =>
      rw [List.cons_append, List.cons.injEq] at hms'
      exfalso
      apply hn
      rw [trimLines_eq_nil_iff]
      exact fun y hy => hb y (by rw [hms'.2]; exact List.mem_append_right _ hy)
  · exact h ms l after hms' hb

/-- A body whose end is kept may be trimmed. -/
theorem readAlike_trimLines {ls : List Text} (h : EndKept ls) (titled : Bool) :
    ReadAlike (marks titled (trimLines ls ++ [[]])) (marks titled ls) := by
  induction ls generalizing titled with
  | nil => exact readAlike_of_allBlank (by simp [trimLines, allBlank_nil]) (by simp) titled
  | cons l ls ih =>
    by_cases hn : trimLines ls = []
    · have hb := trimLines_eq_nil_iff.mp hn
      by_cases hl : AllBlank l
      · have hc : ∀ m ∈ l :: ls, AllBlank m := by simpa [hl] using hb
        rw [trimLines_cons_of_allBlank hn hl]
        exact readAlike_of_allBlank (by simp [allBlank_nil]) hc titled
      · rw [trimLines_cons_of_eq_nil hn hl]
        exact (h [] l ls rfl hb).readAlike hb titled
    · rw [trimLines_cons_of_ne_nil l hn]
      exact (ih h.of_cons _).cons _

end GatherBoard.Markdown
