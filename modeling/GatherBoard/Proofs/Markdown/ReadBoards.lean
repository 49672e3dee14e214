import GatherBoard.Proofs.Markdown.RoundTrip

/-!
# Boards that were read

Any text is read as a board that can be written. Its titles are trimmed lines,
its columns and cards are numbered by place, its descriptions are dedented,
and its front matter and footer begin and end where their marks are.
-/

namespace GatherBoard.Markdown

open Text

/-- The trimmed text of a line is a title. -/
theorem isTitle_trim {l : Text} (h : IsLine l) : IsTitle (trim l) := by
  refine ⟨h.of_subset (fun c hc => ?_), isTrimmed_trim l⟩
  obtain ⟨v, -, hv⟩ := exists_append_trimStart l
  obtain ⟨w, -, hw⟩ := exists_trimEnd_append (trimStart l)
  rw [hv, hw]
  exact List.mem_append_right v (List.mem_append_left w hc)

/-- No text is a title. -/
theorem isTitle_nil : IsTitle [] := ⟨isLine_nil, rfl⟩

/-- What stands after a mark is a line. -/
theorem isLine_of_isPrefixOf? {mark l rest : Text} (h : IsLine l)
    (hr : mark.isPrefixOf? l = some rest) : IsLine rest := by
  rw [List.isPrefixOf?_eq_some_iff_append_eq] at hr
  rw [← hr, isLine_append] at h
  exact h.2

/-- The title of an item is a title. -/
theorem isTitle_readBox {t : Text} (h : IsTitle t) : IsTitle (readBox t).2 := by
  unfold readBox
  split
  · next rest hr => exact isTitle_trim (isLine_of_isPrefixOf? h.line hr)
  · split
    · next rest hr => exact isTitle_trim (isLine_of_isPrefixOf? h.line hr)
    · exact h

/-- A description is made of the trimmed lines without indentation. -/
theorem describe_eq_unlines (notes : List Text) :
    describe notes = unlines (trimLines (notes.map trimStart)) := by
  by_cases hn : notes.map trimStart = []
  · rw [describe, hn]
    rfl
  · rw [← trimEnd_flatMap_line, flatMap_line_eq hn, trimEnd_line]
    rfl

/-- Lines without indentation have none when they are trimmed. -/
theorem trimStart_of_mem_trimLines {ls : List Text} (h : ∀ l ∈ ls, trimStart l = l) :
    ∀ l ∈ trimLines ls, trimStart l = l := by
  intro l hl
  obtain ⟨m, hm, rfl | rfl⟩ := mem_trimLines hl
  · exact h l hm
  · exact trimStart_trimEnd (h m hm)

/-- Lines without indentation are lines. -/
theorem isLine_of_mem_map_trimStart {notes : List Text} (h : ∀ l ∈ notes, IsLine l) :
    ∀ l ∈ notes.map trimStart, IsLine l :=
  List.forall_mem_map.mpr fun m hm =>
    (h m hm).of_subset fun _ hc => (List.dropWhile_sublist isBlank).subset hc

/-- A description has no indentation that could be lost. -/
theorem dedent_describe {notes : List Text} (h : ∀ l ∈ notes, IsLine l) :
    dedent (describe notes) = describe notes := by
  have hd := describe_eq_unlines notes
  by_cases hn : trimLines (notes.map trimStart) = []
  · rw [hd, hn]
    rfl
  · have hl : ∀ l ∈ trimLines (notes.map trimStart), IsLine l :=
      fun l hl => isLine_of_mem_trimLines (isLine_of_mem_map_trimStart h) hl
    have hs : ∀ l ∈ trimLines (notes.map trimStart), trimStart l = l :=
      trimStart_of_mem_trimLines (List.forall_mem_map.mpr fun m _ => trimStart_trimStart m)
    have hm : (trimLines (notes.map trimStart)).map trimStart = trimLines (notes.map trimStart) :=
      (List.map_congr_left hs).trans (List.map_id _)
    have he : trimEnd (describe notes) = describe notes := trimEnd_trimEnd _
    rw [dedent, hd, splitOn_unlines hl hn, hm, ← hd, he]

/-- What every mark of a body is made of. -/
def Mark.IsRead : Mark → Prop
  | .title t | .heading t => IsTitle t
  | .item l | .plain l => IsLine l

/-- The mark of a line is made of it. -/
theorem isRead_ofLine {l : Text} (h : IsLine l) (titled : Bool) : (Mark.ofLine titled l).IsRead := by
  unfold Mark.ofLine
  split
  · next rest hr =>
    cases titled
    · exact isTitle_trim (isLine_of_isPrefixOf? h hr)
    · cases hr
  · split
    · next rest hr => exact isTitle_trim (isLine_of_isPrefixOf? h hr)
    · split
      · exact h
      · exact h

/-- The marks of lines are made of them. -/
theorem isRead_marks {ls : List Text} (h : ∀ l ∈ ls, IsLine l) (titled : Bool) :
    ∀ m ∈ marks titled ls, m.IsRead := by
  induction ls generalizing titled with
  | nil => simp [marks]
  | cons l ls ih =>
    intro m hm
    rcases List.mem_cons.mp hm with rfl | hm
    · exact isRead_ofLine (h l List.mem_cons_self) titled
    · exact ih (fun k hk => h k (List.mem_cons_of_mem _ hk)) _ m hm

/-- An item made of lines. -/
structure Item.IsRead (item : Item) : Prop where
  line : IsLine item.line
  notes : ∀ l ∈ item.notes, IsLine l

/-- A section made of lines. -/
structure Section.IsRead (s : Section) : Prop where
  heading : IsTitle s.heading
  items : ∀ item ∈ s.items, item.IsRead

/-- An outline made of lines. -/
structure Outline.IsRead (o : Outline) : Prop where
  notes : ∀ l ∈ o.notes, IsLine l
  items : ∀ item ∈ o.items, item.IsRead
  sections : ∀ s ∈ o.sections, s.IsRead

/-- One more mark keeps an outline made of lines. -/
theorem Outline.IsRead.addAbove {o : Outline} (h : o.IsRead) {mark : Mark} (hm : mark.IsRead) :
    (Outline.addAbove mark o).IsRead := by
  cases mark with
  | title t => exact ⟨by simp [Outline.addAbove], h.items, h.sections⟩
  | heading t =>
    refine ⟨by simp [Outline.addAbove], by simp [Outline.addAbove], fun s hs => ?_⟩
    rcases List.mem_cons.mp hs with rfl | hs
    · exact ⟨hm, h.items⟩
    · exact h.sections s hs
  | item l =>
    refine ⟨by simp [Outline.addAbove], fun item hi => ?_, h.sections⟩
    rcases List.mem_cons.mp hi with rfl | hi
    · exact ⟨hm, h.notes⟩
    · exact h.items item hi
  | plain l =>
    refine ⟨fun k hk => ?_, h.items, h.sections⟩
    rcases List.mem_cons.mp hk with rfl | hk
    · exact hm
    · exact h.notes k hk

/-- The outline of marks made of lines is made of lines. -/
theorem isRead_ofMarks {ms : List Mark} (h : ∀ m ∈ ms, m.IsRead) : (Outline.ofMarks ms).IsRead := by
  induction ms with
  | nil => exact ⟨by simp [Outline.ofMarks], by simp [Outline.ofMarks], by simp [Outline.ofMarks]⟩
  | cons m ms ih =>
    have hi := ih (fun k hk => h k (List.mem_cons_of_mem _ hk))
    exact hi.addAbove (h m List.mem_cons_self)

/-- The title of a board is a title. -/
theorem isTitle_titleOf {ms : List Mark} (h : ∀ m ∈ ms, m.IsRead) : IsTitle (titleOf ms) := by
  induction ms with
  | nil => exact isTitle_nil
  | cons m ms ih =>
    have hi := ih (fun k hk => h k (List.mem_cons_of_mem _ hk))
    have hm := h m List.mem_cons_self
    rw [titleOf_cons]
    cases m with
    | title t =>
      by_cases ht : t.isEmpty = true
      · simpa only [ht, ↓reduceIte] using hi
      · simp only [ht]
        exact hm
    | heading t => exact hi
    | item l => exact hi
    | plain l => exact hi

/-- The card of an item can be written. -/
theorem Item.IsRead.isWritableCard {item : Item} (h : item.IsRead) (id : Text) :
    IsWritableCard (item.card id) := by
  have hd : IsLine (item.line.drop 2) := h.line.of_subset (fun c hc => List.mem_of_mem_drop hc)
  refine ⟨isTitle_readBox (isTitle_trim hd), ?_⟩
  obtain ⟨w, -, hw⟩ := exists_trimEnd_append (unlines (item.notes.map trimStart))
  have hr := cr_not_mem_unlines (isLine_of_mem_map_trimStart h.notes)
  rw [hw, List.mem_append, not_or] at hr
  exact hr.1

/-- The column of a section can be written. -/
theorem Section.IsRead.isWritableColumn {s : Section} (h : s.IsRead) (id : Text) :
    IsWritableColumn (s.column id) := by
  refine ⟨h.heading, fun card hc => ?_⟩
  obtain ⟨i, hi, rfl⟩ := List.mem_mapIdx.mp hc
  exact (h.items _ (List.getElem_mem hi)).isWritableCard _

/-- Renumbering the column of a section changes nothing. -/
theorem Section.IsRead.renumberedColumn_eq {s : Section} (h : s.IsRead) (id : Text) :
    renumberedColumn id (s.column id) = s.column id := by
  unfold renumberedColumn Section.column
  rw [List.mapIdx_mapIdx]
  refine congrArg (Column.mk id s.heading) (mapIdx_congr (fun i item hm => ?_))
  have hn := (h.items item hm).notes
  simp only [Function.comp_apply, renumberedCard, Item.card, dedent_describe hn]

/-- Closing front matter cuts it after its second mark. -/
theorem exists_of_closeFront?_eq_some {ls front rest : List Text}
    (h : closeFront? ls = some (front, rest)) :
    front ++ rest = ls ∧ ∃ inner last, front = inner ++ [last] ∧
      frontMark.isPrefixOf last = true ∧ ∀ l ∈ inner, frontMark.isPrefixOf l = false := by
  induction ls generalizing front with
  | nil => cases h
  | cons l ls ih =>
    unfold closeFront? at h
    by_cases hl : frontMark.isPrefixOf l = true
    · rw [if_pos hl, Option.some.injEq, Prod.mk.injEq] at h
      obtain ⟨rfl, rfl⟩ := h
      exact ⟨rfl, [], l, rfl, hl, by simp⟩
    · rw [if_neg hl, Option.map_eq_some_iff] at h
      obtain ⟨⟨front', rest'⟩, hc, he⟩ := h
      rw [Prod.mk.injEq] at he
      obtain ⟨rfl, rfl⟩ := he
      obtain ⟨hls, inner, last, rfl, h1, h2⟩ := ih hc
      refine ⟨by rw [List.cons_append, hls], l :: inner, last, rfl, h1, fun k hk => ?_⟩
      rcases List.mem_cons.mp hk with rfl | hk
      · exact Bool.eq_false_iff.mpr hl
      · exact h2 k hk

/-- Front matter that is not closed has no second mark. -/
theorem isPrefixOf_of_closeFront?_eq_none {ls : List Text} (h : closeFront? ls = none) :
    ∀ l ∈ ls, frontMark.isPrefixOf l = false := by
  induction ls with
  | nil => simp
  | cons l ls ih =>
    unfold closeFront? at h
    by_cases hl : frontMark.isPrefixOf l = true
    · rw [if_pos hl] at h
      cases h
    · rw [if_neg hl, Option.map_eq_none_iff] at h
      intro k hk
      rcases List.mem_cons.mp hk with rfl | hk
      · exact Bool.eq_false_iff.mpr hl
      · exact ih h k hk

/-- The footer begins with its mark, no line before it has the mark, and nothing is
lost. -/
theorem cutFooter_spec (ls : List Text) :
    (cutFooter ls).1 ++ (cutFooter ls).2 = ls ∧
      (∀ l ∈ (cutFooter ls).1, footerMark.isPrefixOf l = false) ∧
      StartsFooter (cutFooter ls).2 := by
  unfold cutFooter
  rw [List.span_eq_takeWhile_dropWhile]
  refine ⟨List.takeWhile_append_dropWhile, fun l hl => ?_, fun l hl => ?_⟩
  · simpa using List.mem_takeWhile_imp hl
  · have hd := List.head?_dropWhile_not (fun line => !footerMark.isPrefixOf line) ls
    rw [Option.mem_def.mp hl] at hd
    simpa using hd

/-- Lines divided as those of a file. Front matter is at the very top, from a first line
with its mark through the next such line, or to the end if there is none. The footer is
all from the first line on that is after the front matter and has the mark of a footer. -/
structure Divides (ls front body footer : List Text) : Prop where
  /-- The parts are all the lines, in order. -/
  lines : front ++ (body ++ footer) = ls
  /-- There is no front matter, or it is closed, or it is open and all there is. -/
  front : front = [] ∧ (∀ l ∈ ls.head?, frontMark.isPrefixOf l = false) ∨ IsClosed front ∨
    IsOpen front ∧ body = [] ∧ footer = []
  /-- The footer has not begun yet. -/
  body : ∀ l ∈ body, footerMark.isPrefixOf l = false
  /-- The footer begins with its mark. -/
  footer : StartsFooter footer

/-- The lines of a file are divided where they are cut. -/
theorem divides_ofLines (ls : List Text) :
    Divides ls (Parts.ofLines ls).front (Parts.ofLines ls).body (Parts.ofLines ls).footer := by
  cases ls with
  | nil => exact ⟨rfl, Or.inl ⟨rfl, by simp⟩, by simp [Parts.ofLines], startsFooter_nil⟩
  | cons first rest =>
    by_cases h1 : frontMark.isPrefixOf first = true
    · simp only [Parts.ofLines, h1, ↓reduceIte]
      cases hc : closeFront? rest with
      | none =>
        have hr := isPrefixOf_of_closeFront?_eq_none hc
        refine ⟨by simp, Or.inr (Or.inr ?_), by simp, startsFooter_nil⟩
        exact ⟨⟨first, rest, rfl, h1, hr⟩, rfl, rfl⟩
      | some cut =>
        obtain ⟨front, after⟩ := cut
        obtain ⟨hls, inner, last, rfl, h2, hi⟩ := exists_of_closeFront?_eq_some hc
        obtain ⟨ha, hb, hf⟩ := cutFooter_spec after
        refine ⟨?_, Or.inr (Or.inl ⟨first, inner, last, rfl, h1, h2, hi⟩), hb, hf⟩
        simp only [ha, List.cons_append, hls]
    · simp only [Parts.ofLines, h1]
      obtain ⟨ha, hb, hf⟩ := cutFooter_spec (first :: rest)
      exact ⟨ha, Or.inl ⟨rfl, by simp [h1]⟩, hb, hf⟩

/-- A block is the text of its lines, of which there are some. -/
theorem eq_unlines_of_block? {ls : List Text} {s : Text} (h : block? ls = some s) :
    ls ≠ [] ∧ s = unlines ls := by
  unfold block? at h
  split at h
  · cases h
  · next hn => exact ⟨by simpa using hn, (Option.some.inj h).symm⟩

/-- A block of lines has these lines. -/
theorem block?_eq_some {ls : List Text} (hls : ∀ l ∈ ls, IsLine l) {t : Text}
    (h : block? ls = some t) : ls ≠ [] ∧ t.splitOn '\n' = ls ∧ '\r' ∉ t := by
  obtain ⟨hne, rfl⟩ := eq_unlines_of_block? h
  exact ⟨hne, splitOn_unlines hls hne, cr_not_mem_unlines hls⟩

/-- Joined lines start as the first of them. -/
theorem isPrefixOf_unlines {mark l : Text} (h : mark.isPrefixOf l = true) (ls : List Text) :
    mark.isPrefixOf (unlines (l :: ls)) = true := by
  obtain ⟨rest, rfl⟩ := List.isPrefixOf_iff_prefix.mp h
  by_cases hls : ls = []
  · rw [hls, unlines_singleton, h]
  · rw [unlines_cons _ hls, List.append_assoc]
    exact List.isPrefixOf_iff_prefix.mpr ⟨_, rfl⟩

/-- A file without a body and a footer is read as a bare board. -/
theorem isBare_read {t : Text} (hb : (Parts.ofLines (lines t)).body = [])
    (hf : (Parts.ofLines (lines t)).footer = []) : IsBare (read t).board := by
  refine ⟨?_, ?_, ?_⟩
  · simp only [read, hb, marks]
    rfl
  · simp only [read, hb, marks]
    rfl
  · simp only [read, hf]
    rfl

/-- The parts of a file consist of lines. -/
theorem isLine_of_mem_parts {t l : Text} (h : l ∈ (Parts.ofLines (lines t)).front ∨
    l ∈ (Parts.ofLines (lines t)).body ∨ l ∈ (Parts.ofLines (lines t)).footer) : IsLine l := by
  refine isLine_of_mem_lines (t := t) ?_
  rw [← (divides_ofLines (lines t)).lines, List.mem_append, List.mem_append]
  exact h

/-- The marks of a file are made of its lines. -/
theorem isRead_body (t : Text) : ∀ m ∈ marks false (Parts.ofLines (lines t)).body, m.IsRead :=
  isRead_marks (fun _ hl => isLine_of_mem_parts (Or.inr (Or.inl hl))) false

/-- Every column of a board that was read is made of a section of its file. -/
theorem exists_section {t : Text} {c : Column} (h : c ∈ (read t).board.columns) :
    ∃ s : Section, s.IsRead ∧ ∃ id, c = s.column id := by
  obtain ⟨i, hi, rfl⟩ := List.mem_mapIdx.mp h
  exact ⟨_, (isRead_ofMarks (isRead_body t)).sections _ (List.getElem_mem hi), _, rfl⟩

/-- Every board that was read can be written. -/
theorem isWritable_read (t : Text) : IsWritable (read t).board := by
  have hcut := divides_ofLines (lines t)
  refine ⟨isTitle_titleOf (isRead_body t), fun c hc => ?_, fun header hh => ?_, fun footer hf => ?_⟩
  · obtain ⟨s, hs, id, rfl⟩ := exists_section hc
    exact hs.isWritableColumn id
  · obtain ⟨hne, hs, hr⟩ := block?_eq_some (fun l hl => isLine_of_mem_parts (Or.inl hl)) hh
    rcases hcut.front with ⟨hn, -⟩ | hc | ⟨ho, hb, hf⟩
    · exact absurd hn hne
    · exact Or.inl ⟨hr, by rwa [hs]⟩
    · exact Or.inr ⟨⟨hr, by rwa [hs]⟩, isBare_read hb hf⟩
  · obtain ⟨hne, hs, hr⟩ :=
      block?_eq_some (fun l hl => isLine_of_mem_parts (Or.inr (Or.inr hl))) hf
    obtain ⟨l, ls, hl⟩ := List.exists_cons_of_ne_nil hne
    refine ⟨?_, hr⟩
    rw [← unlines_splitOn footer, hs, hl]
    exact isPrefixOf_unlines (hcut.footer l (by rw [hl]; rfl)) ls

/-- Every board that was read has dedented descriptions. -/
theorem isDedented_read (t : Text) : IsDedented (read t).board := by
  intro card hcard
  obtain ⟨c, hc, hcard⟩ := List.mem_flatMap.mp hcard
  obtain ⟨s, hs, id, rfl⟩ := exists_section hc
  obtain ⟨i, hi, rfl⟩ := List.mem_mapIdx.mp hcard
  exact dedent_describe (hs.items _ (List.getElem_mem hi)).notes

/-- Every board that was read is numbered by place. -/
theorem renumbered_read (t : Text) : renumbered (read t).board = (read t).board := by
  have hs := (isRead_ofMarks (isRead_body t)).sections
  have hc : (renumbered (read t).board).columns = (read t).board.columns := by
    unfold renumbered read
    rw [List.mapIdx_mapIdx]
    exact mapIdx_congr (fun i s hm => (hs s hm).renumberedColumn_eq _)
  exact congrArg (fun columns => { (read t).board with columns := columns }) hc

end GatherBoard.Markdown
