import GatherBoard.Proofs.Rule.Segments

/-!
# The contents of headers

Apart from the tags that its diagnostics name, what a header says about cards to gather is
told by the list of its segments: each of them gives a clause, or a reason for which it was
dropped, or nothing. How the segments are shared out among gather tags does not matter.
-/

namespace GatherBoard

/-- The segments of a header, in order. -/
def segments (header : Text) : List Text := (Text.words header).flatMap segmentsOf

/-- Clauses, and the reasons for which other segments were dropped, in order. -/
structure Content where
  clauses : List Clause
  reasons : List Text
  deriving DecidableEq, Repr

/-- Contents put together in their order. -/
def Content.concat (cs : List Content) : Content :=
  ⟨cs.flatMap Content.clauses, cs.flatMap Content.reasons⟩

/-- The reason for which a segment was dropped, if this is what the diagnostic tells. -/
def Diagnostic.droppedFor? (d : Diagnostic) : Option Text :=
  match d.problem with
  | .dropped segment cause => some (Problem.dropped segment cause).reason
  | .noClause | .secondFallback _ => none

/-- The content of an expression. -/
def Expression.content (e : Expression) : Content :=
  ⟨e.clauses, e.diagnostics.filterMap Diagnostic.droppedFor?⟩

/-- The content of the rules of a column. -/
def ColumnRules.content (rules : ColumnRules) : Content :=
  ⟨rules.clauses, rules.diagnostics.filterMap Diagnostic.droppedFor?⟩

/-- The content of one segment by itself. -/
def segmentContent (segment : Text) : Except Overlong Content :=
  (readSegment [] segment).map Expression.content

/-- A segment has its content in every tag. -/
theorem map_readSegment (tag segment : Text) :
    (readSegment tag segment).map Expression.content = segmentContent segment := by
  unfold segmentContent readSegment
  by_cases hp : (atomTexts segment).isEmpty = true
  · rw [if_pos hp, if_pos hp]
  · rw [if_neg hp, if_neg hp]
    cases readAtoms (atomTexts segment) with
    | ok atoms => rfl
    | error cause => cases cause <;> rfl

/-- The content of expressions put together is that of each of them put together. -/
theorem Expression.content_concat (es : List Expression) :
    (concat es).content = Content.concat (es.map content) := by
  simp only [content, concat, Content.concat, List.filterMap_flatMap, List.flatMap_map]

/-- That a tag has no clause is no content. -/
theorem Expression.content_ofSegments (word : Text) (es : List Expression) :
    (ofSegments word es).content = Content.concat (es.map content) := by
  rw [← content_concat]
  unfold ofSegments
  split
  next h =>
    simp only [Bool.and_eq_true, List.isEmpty_iff] at h
    rw [content, content, h.1.2, h.2]
    rfl
  next => rfl

/-- The content of a word is that of its segments. -/
theorem map_readWord (word : Text) :
    (readWord word).map Expression.content =
      ((segmentsOf word).mapM segmentContent).map Content.concat := by
  have hs : segmentContent = fun segment => (readSegment word segment).map Expression.content :=
    funext fun segment => (map_readSegment word segment).symm
  rw [readWord_eq, hs, mapM_map]
  cases (segmentsOf word).mapM (readSegment word) with
  | error cause => rfl
  | ok es => exact congrArg Except.ok (Expression.content_ofSegments word es)

/-- Putting contents together in groups is putting them together. -/
theorem Content.concat_map_concat (groups : List (List Content)) :
    concat (groups.map concat) = concat groups.flatten := by
  simp only [concat, List.flatMap_map, List.flatten_eq_flatMap, List.flatMap_assoc, id_eq]

/-- The content of a header is that of its segments, and it is refused if one of them is. -/
theorem ColumnRules.map_read (header : Text) :
    (ColumnRules.read header).map ColumnRules.content =
      ((segments header).mapM segmentContent).map Content.concat := by
  have hwords : ((Text.words header).mapM readWord).map (List.map Expression.content) =
      ((Text.words header).mapM fun word => (segmentsOf word).mapM segmentContent).map
        (List.map Content.concat) := by
    rw [← mapM_map, ← mapM_map]
    exact congrArg (fun f => (Text.words header).mapM f) (funext map_readWord)
  have hread : (ColumnRules.read header).map ColumnRules.content =
      (((Text.words header).mapM readWord).map (List.map Expression.content)).map
        Content.concat := by
    rw [read_eq]
    cases (Text.words header).mapM readWord with
    | error cause => rfl
    | ok es => exact congrArg Except.ok (Expression.content_concat es)
  rw [hread, hwords, segments, mapM_flatMap]
  cases (Text.words header).mapM fun word => (segmentsOf word).mapM segmentContent with
  | error cause => rfl
  | ok groups => exact congrArg Except.ok (Content.concat_map_concat groups)

end GatherBoard
