import GatherBoard.Proofs.Markdown.BodyReading
import GatherBoard.Proofs.Markdown.Division

/-!
# What a file keeps of its board

A board that is written and read again has positions for ids and dedented
descriptions. The footer ends in a break. Front matter that is all of the
file is trimmed, and has one break at its end if it is not closed. All else
is as before: writing loses nothing but an empty heading at the very end.
-/

namespace GatherBoard.Markdown

open Text

/-- Is there nothing but front matter? -/
def isBare (b : Board) : Bool := b.title.isEmpty && b.columns.isEmpty && b.footer.isNone

/-- Is front matter without its second mark? -/
def isOpenFront (header : Text) : Bool :=
  (header.splitOn '\n').tail.all fun l => !frontMark.isPrefixOf l

/-- Front matter as it is read back. -/
def storedHeader (b : Board) (header : Text) : Text :=
  if isBare b then (if isOpenFront header then line (trimEnd header) else trimEnd header)
  else header

/-- The columns as they are read back. -/
def storedColumns (b : Board) : List Column :=
  b.columns.mapIdx fun i c => columnOf (columnContent c) (columnId (i + 1))

/-- A board as it is read back. -/
def stored (b : Board) : Board :=
  ⟨storedColumns b, b.title, b.header.map (storedHeader b), b.footer.map storedFooter⟩

/-- A board is bare if the test says so. -/
theorem isBare_iff {b : Board} : isBare b = true ↔ IsBare b := by
  unfold isBare
  constructor
  · intro h
    simp only [Bool.and_eq_true, List.isEmpty_iff, Option.isNone_iff_eq_none] at h
    exact ⟨h.1.1, h.1.2, h.2⟩
  · intro h
    simp [h.title, h.columns, h.footer]

/-- Closed front matter is not open. -/
theorem IsClosedFront.isOpenFront_eq {header : Text} (h : IsClosedFront header) :
    isOpenFront header = false := by
  obtain ⟨-, first, inner, last, hs, -, hl, -⟩ := h
  simp [isOpenFront, hs, hl]

/-- Open front matter is open. -/
theorem IsOpenFront.isOpenFront_eq {header : Text} (h : IsOpenFront header) :
    isOpenFront header = true := by
  obtain ⟨-, first, rest, hs, -, hr⟩ := h
  simpa [isOpenFront, hs] using hr

/-- The lines of front matter are those of its text. -/
theorem IsWritable.frontLines_eq {b : Board} (h : IsWritable b) {header : Text}
    (hh : b.header = some header) : frontLines b = header.splitOn '\n' := by
  have hne : header ≠ [] := by
    rintro rfl
    rcases h.header [] hh with ⟨-, first, inner, last, hs, -⟩ | ⟨⟨-, first, rest, hs, h1, -⟩, -⟩
    · rw [List.splitOn_nil, List.cons.injEq] at hs
      simp at hs
    · rw [List.splitOn_nil, List.cons.injEq] at hs
      rw [← hs.1] at h1
      cases h1
  simp [frontLines, hh, hne]

/-- The lines of front matter are read as it. -/
theorem IsWritable.block?_frontLines {b : Board} (h : IsWritable b) :
    block? (frontLines b) = b.header := by
  cases hh : b.header with
  | none => simp [frontLines, hh, block?]
  | some header => rw [h.frontLines_eq hh, block?_splitOn]

/-- What stands after closed front matter is cut off from it. -/
theorem IsWritable.ofLines_front {b : Board} (h : IsWritable b)
    (hc : ∀ header, b.header = some header → IsClosedFront header) {body foot : List Text}
    (hb : ∀ l ∈ body, IsInner l) (hf : StartsFooter foot) :
    Parts.ofLines (frontLines b ++ (body ++ foot)) = ⟨frontLines b, false, body, foot⟩ := by
  cases hh : b.header with
  | none =>
    have hn : frontLines b = [] := by simp [frontLines, hh]
    rw [hn, List.nil_append]
    exact ofLines_body hb hf
  | some header =>
    obtain ⟨-, first, inner, last, hs, h1, h2, hi⟩ := hc header hh
    rw [h.frontLines_eq hh, hs]
    exact ofLines_closed h1 h2 hi (fun l hl => (hb l hl).2) hf

/-- What stands in the columns of a file. -/
def Parts.content (parts : Parts) : List (Text × List (Text × Text)) :=
  (Outline.ofMarks (marks false parts.body)).sections.map Section.content

/-- A file that holds a board, up to what is lost by writing. -/
structure Parts.Holds (parts : Parts) (b : Board) : Prop where
  front : block? parts.front = b.header.map (storedHeader b)
  body : ReadAlike (marks false parts.body) (marks false (bodyLines b))
  footer : block? parts.footer = b.footer.map storedFooter

/-- The columns of a board stand in the file that holds it. -/
theorem Parts.Holds.content_eq {parts : Parts} {b : Board} (hp : parts.Holds b)
    (h : IsWritable b) : parts.content = b.columns.map columnContent :=
  hp.body.outline.sections.trans h.read_body.2

/-- A file that holds a board is read as this board. -/
theorem IsWritable.read_eq {b : Board} (h : IsWritable b) {t : Text}
    (hp : (Parts.ofLines (lines t)).Holds b) : (read t).board = stored b := by
  have hs := hp.content_eq h
  have hm : (Outline.ofMarks (marks false (Parts.ofLines (lines t)).body)).sections.mapIdx
      (fun i s => s.column (columnId (i + 1))) = storedColumns b := by
    unfold storedColumns
    rw [← mapIdx_map b.columns columnContent (fun i c => columnOf c (columnId (i + 1))), ← hs,
      Parts.content, mapIdx_map]
    simp only [Section.column_eq]
  simp only [read, hm, hp.body.title, h.read_body.1, hp.front, hp.footer, stored]

/-- Without title and columns nothing but the gap is in the body. -/
theorem bodyLines_of_bare {b : Board} (h : IsBare b) : bodyLines b = gapLines b := by
  simp [bodyLines, titleLines, h.title, h.columns]

/-- Only a bare board has a blank body. -/
theorem trimLines_bodyLines_ne_nil {b : Board} (hf : b.footer = none) (h : ¬ IsBare b) :
    trimLines (bodyLines b) ≠ [] := by
  rw [Ne, trimLines_eq_nil_iff]
  intro ha
  apply h
  refine ⟨?_, ?_, hf⟩
  · by_contra ht
    have hl := ha (titleMark ++ b.title) (by simp [bodyLines, titleLines, ht])
    exact not_allBlank_cons (by decide) _ hl
  · by_contra hc
    obtain ⟨c, more, hcs⟩ := List.exists_cons_of_ne_nil hc
    exact not_allBlank_headingLine c (ha _ (by simp [bodyLines, hcs, columnLines]))

/-- A board with a footer is not bare. -/
theorem not_isBare_of_footer {b : Board} {footer : Text} (hf : b.footer = some footer) :
    ¬ IsBare b := by
  intro hb
  rw [hb.footer] at hf
  cases hf

/-- A board that is not bare has closed front matter, if any. -/
theorem IsWritable.closed_of_not_bare {b : Board} (h : IsWritable b) (hb : ¬ IsBare b) :
    ∀ header, b.header = some header → IsClosedFront header :=
  fun header hh => (h.header header hh).resolve_right (fun ho => hb ho.2)

/-- Front matter before a title, a column or a footer is kept as it is. -/
theorem map_storedHeader_of_not_bare {b : Board} (hb : ¬ IsBare b) :
    b.header.map (storedHeader b) = b.header := by
  have he : isBare b = false := by
    rw [← Bool.not_eq_true, isBare_iff]
    exact hb
  cases b.header <;> simp [storedHeader, he]

/-- The parts of a file with a footer. -/
theorem IsWritable.ofLines_write_of_footer {b : Board} (h : IsWritable b) {footer : Text}
    (hf : b.footer = some footer) : Parts.ofLines (lines (write b)) =
      ⟨frontLines b, false, (bodyLines b).dropLast, (storedFooter footer).splitOn '\n'⟩ := by
  have hb := not_isBare_of_footer hf
  have hd : ∀ l ∈ (bodyLines b).dropLast, IsInner l :=
    fun l hl => isInner_bodyLines b l ((List.dropLast_sublist _).subset hl)
  rw [lines_write_of_footer h hf, List.append_assoc]
  exact h.ofLines_front (h.closed_of_not_bare hb) hd
    (startsFooter_storedFooter (h.footer footer hf).1)

/-- The parts of a file without a footer that has more than front matter. -/
theorem IsWritable.ofLines_write_of_no_footer {b : Board} (h : IsWritable b)
    (hf : b.footer = none) (hb : ¬ IsBare b) : Parts.ofLines (lines (write b)) =
      ⟨frontLines b, false, trimLines (bodyLines b) ++ [[]], []⟩ := by
  have hn := trimLines_bodyLines_ne_nil hf hb
  have hd : ∀ l ∈ trimLines (bodyLines b) ++ [[]], IsInner l := by
    intro l hl
    rcases List.mem_append.mp hl with hl | hl
    · exact isInner_of_mem_trimLines (isInner_bodyLines b) hl
    · rw [List.mem_singleton.mp hl]
      exact isInner_nil
  have hp := h.ofLines_front (h.closed_of_not_bare hb) hd startsFooter_nil
  rw [lines_write_of_no_footer h hf, trimLines_append_of_ne_nil _ hn, if_neg (by simp [hn]),
    List.append_assoc]
  rwa [List.append_nil] at hp

/-- A file with a footer holds its board. -/
theorem IsWritable.holds_of_footer {b : Board} (h : IsWritable b) {footer : Text}
    (hf : b.footer = some footer) : (Parts.ofLines (lines (write b))).Holds b := by
  have hb := not_isBare_of_footer hf
  rw [h.ofLines_write_of_footer hf]
  refine ⟨?_, ?_, ?_⟩
  · rw [h.block?_frontLines, map_storedHeader_of_not_bare hb]
  · -- only an empty line is missing at the end of the body
    rcases exists_written_eq b with ⟨-, hn⟩ | ⟨ls, -, hn⟩
    · rw [hn]
      exact ⟨Agree.refl _, rfl⟩
    · rw [hn, List.dropLast_concat]
      exact (readAlike_append_blanks false ls (by simp [allBlank_nil])).symm
  · rw [block?_splitOn, hf]
    rfl

/-- A file without a footer that has more than front matter holds its board. -/
theorem IsWritable.holds_of_no_footer {b : Board} (h : IsWritable b) (he : KeepsEnd b)
    (hf : b.footer = none) (hb : ¬ IsBare b) : (Parts.ofLines (lines (write b))).Holds b := by
  rw [h.ofLines_write_of_no_footer hf hb]
  refine ⟨?_, readAlike_trimLines (h.endKept he hf) false, ?_⟩
  · rw [h.block?_frontLines, map_storedHeader_of_not_bare hb]
  · rw [hf]
    rfl

/-- A line with the mark of front matter is not blank. -/
theorem not_allBlank_of_frontMark {l : Text} (h : frontMark.isPrefixOf l = true) :
    ¬ AllBlank l := by
  obtain ⟨rest, rfl⟩ := List.isPrefixOf_iff_prefix.mp h
  exact not_allBlank_cons (by decide) _

/-- The trimmed lines of open front matter are open front matter. -/
theorem exists_trimLines_open {first : Text} {rest : List Text}
    (h1 : frontMark.isPrefixOf first = true) (hr : ∀ l ∈ rest, frontMark.isPrefixOf l = false) :
    ∃ first' rest', trimLines (first :: rest) = first' :: rest' ∧
      frontMark.isPrefixOf first' = true ∧ ∀ l ∈ rest', frontMark.isPrefixOf l = false := by
  by_cases hn : trimLines rest = []
  · refine ⟨trimEnd first, [], ?_, isPrefixOf_trimEnd rfl h1, by simp⟩
    exact trimLines_cons_of_eq_nil hn (not_allBlank_of_frontMark h1)
  · refine ⟨first, trimLines rest, trimLines_cons_of_ne_nil first hn, h1, fun l hl => ?_⟩
    obtain ⟨m, hm, rfl | rfl⟩ := mem_trimLines hl
    · exact hr l hm
    · exact isPrefixOf_trimEnd_eq_false (hr m hm)

/-- The trimmed lines of closed front matter end in its second mark. -/
theorem trimLines_closed {first last : Text} (inner : List Text)
    (h : frontMark.isPrefixOf last = true) :
    trimLines (first :: (inner ++ [last])) = first :: (inner ++ [trimEnd last]) := by
  have hl : trimLines [last] = [trimEnd last] :=
    trimLines_cons_of_eq_nil rfl (not_allBlank_of_frontMark h)
  have hne : trimLines [last] ≠ [] := by simp [hl]
  rw [← List.cons_append, trimLines_append_of_ne_nil _ hne, hl, List.cons_append]

/-- The body of a bare board is blank. -/
theorem allBlank_of_bare {b : Board} (hb : IsBare b) : ∀ l ∈ bodyLines b, AllBlank l := by
  rw [bodyLines_of_bare hb, gapLines]
  split <;> simp [allBlank_nil]

/-- The file of a bare board has the trimmed lines of its front matter. -/
theorem IsWritable.lines_write_of_bare {b : Board} (h : IsWritable b) (hb : IsBare b) :
    lines (write b) =
      (if (trimLines (frontLines b)).isEmpty then [[]] else trimLines (frontLines b)) ++ [[]] := by
  have hl := lines_write_of_no_footer h hb.footer
  rwa [trimLines_append_of_eq_nil _ (trimLines_eq_nil_iff.mpr (allBlank_of_bare hb))] at hl

/-- A file of front matter with a blank body holds its board. -/
theorem holds_of_blank {b : Board} (hb : IsBare b) {parts : Parts}
    (hl : ∀ l ∈ parts.body, AllBlank l)
    (hh : block? parts.front = b.header.map (storedHeader b)) (hf : parts.footer = []) :
    parts.Holds b ∧ ∀ l ∈ parts.body, AllBlank l := by
  refine ⟨⟨hh, readAlike_of_allBlank hl (allBlank_of_bare hb) false, ?_⟩, hl⟩
  rw [hf, hb.footer]
  rfl

/-- A file of closed front matter alone holds its board, and has a blank body. -/
theorem IsWritable.holds_of_bare_closed {b : Board} (h : IsWritable b) (hb : IsBare b)
    {header : Text} (hh : b.header = some header) (hc : IsClosedFront header) :
    (Parts.ofLines (lines (write b))).Holds b ∧
      ∀ l ∈ (Parts.ofLines (lines (write b))).body, AllBlank l := by
  have hs : storedHeader b header = trimEnd header := by
    simp [storedHeader, isBare_iff.mpr hb, hc.isOpenFront_eq]
  have hu := unlines_trimLines_splitOn header
  have hl := h.lines_write_of_bare hb
  obtain ⟨-, first, inner, last, hsplit, h1, h2, hi⟩ := hc
  rw [h.frontLines_eq hh, hsplit, trimLines_closed inner h2, if_neg (by simp)] at hl
  rw [hsplit, trimLines_closed inner h2] at hu
  have hd : ∀ l ∈ [[]], footerMark.isPrefixOf l = false := List.forall_mem_singleton.mpr rfl
  have hp := ofLines_closed h1 (isPrefixOf_trimEnd rfl h2) hi hd startsFooter_nil
  rw [List.append_nil, ← hl] at hp
  rw [hp]
  refine holds_of_blank hb (by simp [allBlank_nil]) ?_ rfl
  rw [hh, Option.map_some, hs, block?_of_ne_nil (List.cons_ne_nil _ _), hu]

/-- A file of open front matter holds its board, and has no body. -/
theorem IsWritable.holds_of_bare_open {b : Board} (h : IsWritable b) (hb : IsBare b)
    {header : Text} (hh : b.header = some header) (ho : IsOpenFront header) :
    (Parts.ofLines (lines (write b))).Holds b ∧
      ∀ l ∈ (Parts.ofLines (lines (write b))).body, AllBlank l := by
  have hs : storedHeader b header = line (trimEnd header) := by
    simp [storedHeader, isBare_iff.mpr hb, ho.isOpenFront_eq]
  have hu := unlines_trimLines_splitOn header
  have hl := h.lines_write_of_bare hb
  obtain ⟨-, first, rest, hsplit, h1, hr⟩ := ho
  obtain ⟨first', rest', ht, h1', hr'⟩ := exists_trimLines_open h1 hr
  rw [h.frontLines_eq hh, hsplit, ht, if_neg (by simp), List.cons_append] at hl
  rw [hsplit, ht] at hu
  have hrest : ∀ l ∈ rest' ++ [[]], frontMark.isPrefixOf l = false := by
    intro l hl
    rcases List.mem_append.mp hl with hl | hl
    · exact hr' l hl
    · rw [List.mem_singleton.mp hl]
      rfl
  rw [hl, ofLines_open h1' hrest]
  refine holds_of_blank hb (by simp) ?_ rfl
  rw [hh, Option.map_some, hs, block?_of_ne_nil (List.cons_ne_nil _ _), ← List.cons_append,
    unlines_append_nil (List.cons_ne_nil _ _), hu]

/-- A file of at most front matter holds its board, and has a blank body. -/
theorem IsWritable.holds_of_bare {b : Board} (h : IsWritable b) (hb : IsBare b) :
    (Parts.ofLines (lines (write b))).Holds b ∧
      ∀ l ∈ (Parts.ofLines (lines (write b))).body, AllBlank l := by
  cases hh : b.header with
  | none =>
    have hl := h.lines_write_of_bare hb
    have hn : frontLines b = [] := by simp [frontLines, hh]
    rw [hn] at hl
    have hd : ∀ l ∈ [[], []], IsInner l := by simp [isInner_nil]
    have hp := ofLines_body hd startsFooter_nil
    rw [hl, show (if (trimLines []).isEmpty then [[]] else trimLines []) ++ [[]] =
      [[], []] ++ ([] : List Text) from rfl, hp]
    refine holds_of_blank hb (by simp [allBlank_nil]) ?_ rfl
    rw [hh]
    rfl
  | some header =>
    rcases h.header header hh with hc | ⟨ho, -⟩
    · exact h.holds_of_bare_closed hb hh hc
    · exact h.holds_of_bare_open hb hh ho

/-- The file of a board whose end is kept holds the board. -/
theorem IsWritable.holds {b : Board} (h : IsWritable b) (he : KeepsEnd b) :
    (Parts.ofLines (lines (write b))).Holds b := by
  cases hf : b.footer with
  | some footer => exact h.holds_of_footer hf
  | none =>
    by_cases hb : IsBare b
    · exact (h.holds_of_bare hb).1
    · exact h.holds_of_no_footer he hf hb

/-- A board whose end is kept is read back from its file up to ids, the
indentation of descriptions and the ends of header and footer. -/
theorem IsWritable.read_write {b : Board} (h : IsWritable b) (he : KeepsEnd b) :
    (read (write b)).board = stored b := h.read_eq (h.holds he)

end GatherBoard.Markdown
