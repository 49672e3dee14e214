import GatherBoard.Proofs.Rule.Answers
import GatherBoard.Proofs.Rule.Contents
import Mathlib.Logic.Relation

/-!
# Respelled headers

Words of a header can change places, a gather tag can be split at a bar, two tags can be
joined with one, the segments of a tag and the parts of a segment can change places and be
repeated, and empty ones can be put in. None of this matters to which cards are gathered,
also where some parts are malformed: a header gathers a card if it has a segment with parts
all of which are atoms that hold, and this does not ask how often or in which order they
are written.
-/

namespace GatherBoard

/-- A list of texts is varied. -/
inductive Varied : List Text → List Text → Prop
  /-- The texts change places. -/
  | permuted {l l' : List Text} (order : l.Perm l') : Varied l l'
  /-- One of the texts is repeated. -/
  | repeated {l : List Text} {t : Text} (mem : t ∈ l) : Varied l (t :: l)
  /-- An empty text is put in. -/
  | padded (l : List Text) : Varied l ([] :: l)

/-- The expression of a gather tag is respelled. -/
inductive Expression.Respelled (e e' : Text) : Prop
  /-- Its segments are varied. -/
  | segments (varied : Varied (e.splitOn '|') (e'.splitOn '|'))
  /-- The parts of one segment are varied. -/
  | parts {before after : List Text} {segment segment' : Text}
    (old : e.splitOn '|' = before ++ segment :: after)
    (new : e'.splitOn '|' = before ++ segment' :: after)
    (varied : Varied (segment.splitOn '&') (segment'.splitOn '&'))

/-- A header is respelled in one step. -/
inductive Respelled (header header' : Text) : Prop
  /-- Its words change places. -/
  | permuted (order : (Text.words header).Perm (Text.words header'))
  /-- A gather tag is split at a bar. -/
  | split {before after : List Text} {a b : Text}
    (old : Text.words header = before ++ (gatherMark ++ (a ++ '|' :: b)) :: after)
    (new : Text.words header' = before ++ (gatherMark ++ a) :: (gatherMark ++ b) :: after)
  /-- Two neighbouring gather tags are joined with a bar. -/
  | joined {before after : List Text} {a b : Text}
    (old : Text.words header = before ++ (gatherMark ++ a) :: (gatherMark ++ b) :: after)
    (new : Text.words header' = before ++ (gatherMark ++ (a ++ '|' :: b)) :: after)
  /-- The expression of a gather tag is respelled. -/
  | tag {before after : List Text} {e e' : Text}
    (old : Text.words header = before ++ (gatherMark ++ e) :: after)
    (new : Text.words header' = before ++ (gatherMark ++ e') :: after)
    (respelled : Expression.Respelled e e')

/-- Varied lists have the same texts, but for empty ones. -/
theorem Varied.mem_iff {l l' : List Text} (h : Varied l l') {t : Text} (ht : t ≠ []) :
    t ∈ l ↔ t ∈ l' := by
  cases h with
  | permuted order => exact order.mem_iff
  | repeated mem =>
    rw [List.mem_cons]
    exact ⟨Or.inr, fun h => h.elim (fun he => he ▸ mem) id⟩
  | padded => simp [ht]

section

variable {facts : Facts} {today : Date}

/-- A segment holds for a card: it has parts, and all of them are atoms that hold. -/
def SegmentHolds (facts : Facts) (today : Date) (segment : Text) : Prop :=
  atomTexts segment ≠ [] ∧
    ∀ part ∈ atomTexts segment, ∃ a, Atom.read part = .ok a ∧ a.holds facts today = .ok true

/-- The parts of a segment are its pieces that are not empty. -/
theorem mem_atomTexts {segment part : Text} :
    part ∈ atomTexts segment ↔ part ∈ segment.splitOn '&' ∧ part ≠ [] := by
  simp [atomTexts]

/-- Whether a segment holds is told by the set of its parts. -/
theorem segmentHolds_congr {segment segment' : Text}
    (h : Varied (segment.splitOn '&') (segment'.splitOn '&')) :
    SegmentHolds facts today segment ↔ SegmentHolds facts today segment' := by
  have hm (part : Text) : part ∈ atomTexts segment ↔ part ∈ atomTexts segment' := by
    rw [mem_atomTexts, mem_atomTexts]
    exact and_congr_left fun hne => h.mem_iff hne
  unfold SegmentHolds
  simp only [ne_eq, List.eq_nil_iff_forall_not_mem, hm]

/-- An empty segment does not hold. -/
theorem not_segmentHolds_nil : ¬ SegmentHolds facts today [] := fun h => h.1 rfl

/-- Some segment of a respelled expression holds if one of the expression does. -/
theorem Expression.Respelled.exists_segmentHolds_iff {e e' : Text} (h : Respelled e e') :
    (∃ segment ∈ e.splitOn '|', SegmentHolds facts today segment) ↔
      ∃ segment ∈ e'.splitOn '|', SegmentHolds facts today segment := by
  cases h with
  | segments varied =>
    refine exists_congr fun segment => and_congr_left fun hs => varied.mem_iff ?_
    rintro rfl
    exact not_segmentHolds_nil hs
  | parts old new varied =>
    simp only [old, new, List.mem_append, List.mem_cons, or_and_right, exists_or,
      exists_eq_left, segmentHolds_congr varied]

/-- Some segment of the header holds for a card. -/
def HasTrueSegment (facts : Facts) (today : Date) (header : Text) : Prop :=
  ∃ segment ∈ segments header, SegmentHolds facts today segment

/-- The segments of a gather tag are those of its expression. -/
theorem segmentsOf_gatherTag (e : Text) : segmentsOf (gatherMark ++ e) = e.splitOn '|' := by
  rw [segmentsOf, List.isPrefixOf?_eq_some_iff_append_eq.mpr rfl, Option.map_some, Option.getD_some]

/-- Splitting a gather tag at a bar shares out its segments. -/
theorem segments_split {header header' : Text} {before after : List Text} {a b : Text}
    (old : Text.words header = before ++ (gatherMark ++ (a ++ '|' :: b)) :: after)
    (new : Text.words header' = before ++ (gatherMark ++ a) :: (gatherMark ++ b) :: after) :
    segments header' = segments header := by
  have hcut : (a ++ '|' :: b).splitOn '|' = a.splitOn '|' ++ b.splitOn '|' :=
    List.splitOnP_append_cons a b (beq_self_eq_true '|')
  simp only [segments, old, new, List.flatMap_append, List.flatMap_cons, segmentsOf_gatherTag,
    hcut, List.append_assoc]

/-- Respelling a header keeps whether one of its segments holds. -/
theorem Respelled.hasTrueSegment_iff {header header' : Text} (h : Respelled header header') :
    HasTrueSegment facts today header ↔ HasTrueSegment facts today header' := by
  unfold HasTrueSegment
  cases h with
  | permuted order =>
    have hp : (segments header).Perm (segments header') := order.flatMap_right segmentsOf
    simp only [hp.mem_iff]
  | split old new => rw [segments_split old new]
  | joined old new => rw [segments_split new old]
  | tag old new respelled =>
    simp only [segments, old, new, List.flatMap_append, List.flatMap_cons, segmentsOf_gatherTag,
      List.mem_append, or_and_right, exists_or, respelled.exists_segmentHolds_iff]

/-- A gather tag is no fallback tag. -/
theorem fallbackTag_ne_gatherTag (e : Text) :
    ungatheredTag ≠ gatherMark ++ e ∧ unsortedTag ≠ gatherMark ++ e := by
  obtain ⟨hu, hs, -⟩ := ColumnRules.not_other_of_gather (List.isPrefixOf?_eq_some_iff_append_eq.mpr rfl :
    gatherMark.isPrefixOf? (gatherMark ++ e) = some e)
  exact ⟨beq_eq_false_iff_ne.mp hu, beq_eq_false_iff_ne.mp hs⟩

/-- Respelling a header keeps its fallback tags. -/
theorem Respelled.hasFallbackTag_iff {header header' : Text} (h : Respelled header header') :
    HasFallbackTag header ↔ HasFallbackTag header' := by
  unfold HasFallbackTag
  cases h with
  | permuted order => simp only [order.mem_iff]
  | split old new => simp [old, new, fallbackTag_ne_gatherTag]
  | joined old new => simp [old, new, fallbackTag_ne_gatherTag]
  | tag old new => simp [old, new, fallbackTag_ne_gatherTag]

/-- A header that was read has a clause that holds if one of its segments does. -/
theorem ColumnRules.exists_clause_holds_iff {header : Text} {rules : ColumnRules}
    (h : ColumnRules.read header = .ok rules) :
    (∃ c ∈ rules.clauses, ∀ a ∈ c.atoms, a.holds facts today = .ok true) ↔
      HasTrueSegment facts today header := by
  constructor
  · rintro ⟨c, hc, hall⟩
    obtain ⟨tag, segment, hs, hne, hr⟩ := (mem_clauses_iff h).mp hc
    rw [readAtoms_eq_mapM, mapM_eq_ok_iff] at hr
    refine ⟨segment, List.mem_flatMap.mpr ⟨tag, hs⟩, hne, fun part hp => ?_⟩
    obtain ⟨a, ha, hread⟩ := exists_of_forall₂_of_mem hr.flip hp
    exact ⟨a, hread, hall a ha⟩
  · rintro ⟨segment, hm, hne, hall⟩
    obtain ⟨tag, hs⟩ := List.mem_flatMap.mp hm
    obtain ⟨atoms, hf⟩ := exists_forall₂ hall
    have hr : readAtoms (atomTexts segment) = .ok atoms := by
      rw [readAtoms_eq_mapM, mapM_eq_ok_iff]
      exact hf.imp fun _ _ ha => ha.1
    refine ⟨⟨atoms⟩, (mem_clauses_iff h).mpr ⟨tag, segment, hs, hne, hr⟩, fun a ha => ?_⟩
    obtain ⟨part, -, -, hholds⟩ := exists_of_forall₂_of_mem hf ha
    exact hholds

/-- The answer of rules that were read is whether a segment of the header holds. -/
theorem ColumnRules.exists_answer {header : Text} {rules : ColumnRules}
    (h : ColumnRules.read header = .ok rules) (facts : Facts) (today : Date) :
    ∃ answer, rules.matchesCard facts today = .ok answer ∧
      (answer = true ↔ HasTrueSegment facts today header) := by
  obtain ⟨answer, hm⟩ : ∃ answer, rules.matchesCard facts today = .ok answer :=
    exists_matchesCard h
  refine ⟨answer, hm, (gathers_iff_of_matchesCard h hm).symm.trans ?_⟩
  unfold Gathers
  simp only [h, Except.ok.injEq, exists_eq_left', exists_clause_holds_iff h]

/-- What each step keeps is kept by any number of steps in either direction. -/
theorem iff_of_eqvGen {α : Type} {r : α → α → Prop} {p : α → Prop}
    (hstep : ∀ x y, r x y → (p x ↔ p y)) {x y : α} (h : Relation.EqvGen r x y) : p x ↔ p y := by
  induction h with
  | rel x y step => exact hstep x y step
  | refl x => exact Iff.rfl
  | symm x y _ ih => exact ih.symm
  | trans x y z _ _ ih ih' => exact ih.trans ih'

end

/-- Only the content of a header matters. Headers that were read and are respellings of one
another, in any number of steps in either direction, gather the same cards on every day, and
both of them or none belong to a fallback column; the headers in between may be refused. If
nothing but a bar between two neighbouring gather tags is taken away or put in, then the
same clauses are stated in the same order and the same segments dropped for the same reasons,
or both headers are refused for the same integer. -/
theorem ColumnRules.respelling_keeps_content :
    (∀ (header header' : Text) (rules rules' : ColumnRules),
      Relation.EqvGen Respelled header header' →
      ColumnRules.read header = .ok rules → ColumnRules.read header' = .ok rules' →
      (∀ facts today, ∃ answer, rules.matchesCard facts today = .ok answer ∧
        rules'.matchesCard facts today = .ok answer) ∧
      rules.isFallback = rules'.isFallback) ∧
    ∀ (header header' : Text) (before after : List Text) (a b : Text),
      Text.words header = before ++ (gatherMark ++ a) :: (gatherMark ++ b) :: after →
      Text.words header' = before ++ (gatherMark ++ (a ++ '|' :: b)) :: after →
      (ColumnRules.read header).map ColumnRules.content =
        (ColumnRules.read header').map ColumnRules.content := by
  constructor
  · intro header header' rules rules' he hr hr'
    constructor
    · intro facts today
      obtain ⟨answer, hm, ha⟩ := exists_answer hr facts today
      obtain ⟨answer', hm', ha'⟩ := exists_answer hr' facts today
      have hsame : answer = answer' := by
        rw [Bool.eq_iff_iff, ha, ha']
        exact iff_of_eqvGen (fun _ _ hstep => hstep.hasTrueSegment_iff) he
      exact ⟨answer, hm, hsame ▸ hm'⟩
    · rw [Bool.eq_iff_iff, isFallback_iff_of_read hr, isFallback_iff_of_read hr']
      exact iff_of_eqvGen (fun _ _ hstep => hstep.hasFallbackTag_iff) he
  · intro header header' before after a b hold hnew
    rw [map_read, map_read, segments_split hnew hold]

/-- A header with a malformed segment. -/
def deskHeader : Text := "#unsorted #gather_day<7&!anna|karl&x=1 Desk".toList

/-- The header with the parts of its first segment turned around. -/
def turnedDeskHeader : Text := "#unsorted #gather_!anna&day<7|karl&x=1 Desk".toList

/-- The header that is then split at its bar. -/
def splitDeskHeader : Text := "#unsorted #gather_!anna&day<7 #gather_karl&x=1 Desk".toList

/-- The rules that the first of these headers states. -/
def deskRules : ColumnRules where
  clauses := [
    ⟨[⟨.dayOffset, .less, .number 7, false⟩, ⟨.person, .equal, .name "anna".toList, true⟩]⟩]
  ungathered := false
  unsorted := true
  orders := []
  diagnostics := [⟨"#gather_day<7&!anna|karl&x=1".toList,
    .dropped "karl&x=1".toList (.unknownField "x".toList)⟩]

/-- The rules that the last of these headers states. -/
def splitDeskRules : ColumnRules where
  clauses := [
    ⟨[⟨.person, .equal, .name "anna".toList, true⟩, ⟨.dayOffset, .less, .number 7, false⟩]⟩]
  ungathered := false
  unsorted := true
  orders := []
  diagnostics := [⟨"#gather_karl&x=1".toList,
    .dropped "karl&x=1".toList (.unknownField "x".toList)⟩]

/-- The parts of a segment of the desk are turned around. -/
theorem deskHeader_turned : Respelled deskHeader turnedDeskHeader := by
  have hold : Text.words deskHeader =
      ["#unsorted".toList] ++ (gatherMark ++ "day<7&!anna|karl&x=1".toList) :: ["Desk".toList] := by
    decide
  have hnew : Text.words turnedDeskHeader =
      ["#unsorted".toList] ++ (gatherMark ++ "!anna&day<7|karl&x=1".toList) :: ["Desk".toList] := by
    decide
  have holdCut : "day<7&!anna|karl&x=1".toList.splitOn '|' =
      [] ++ "day<7&!anna".toList :: ["karl&x=1".toList] := by
    decide
  have hnewCut : "!anna&day<7|karl&x=1".toList.splitOn '|' =
      [] ++ "!anna&day<7".toList :: ["karl&x=1".toList] := by
    decide
  exact .tag hold hnew (.parts holdCut hnewCut (.permuted (by decide)))

/-- The tag of the desk is split. -/
theorem turnedDeskHeader_split : Respelled turnedDeskHeader splitDeskHeader := by
  have hold : Text.words turnedDeskHeader = ["#unsorted".toList] ++
      (gatherMark ++ ("!anna&day<7".toList ++ '|' :: "karl&x=1".toList)) :: ["Desk".toList] := by
    decide
  have hnew : Text.words splitDeskHeader = ["#unsorted".toList] ++
      (gatherMark ++ "!anna&day<7".toList) :: (gatherMark ++ "karl&x=1".toList) ::
        ["Desk".toList] := by
    decide
  exact .split hold hnew

/-- The headers of the desk gather the same cards, and the last two have the same content. -/
theorem deskHeader_respelled :
    Relation.EqvGen Respelled deskHeader splitDeskHeader ∧
    ColumnRules.read deskHeader = .ok deskRules ∧
    ColumnRules.read splitDeskHeader = .ok splitDeskRules ∧
    (∀ facts today, ∃ answer, deskRules.matchesCard facts today = .ok answer ∧
      splitDeskRules.matchesCard facts today = .ok answer) ∧
    deskRules.isFallback = splitDeskRules.isFallback ∧
    (ColumnRules.read splitDeskHeader).map ColumnRules.content =
      (ColumnRules.read turnedDeskHeader).map ColumnRules.content := by
  have he : Relation.EqvGen Respelled deskHeader splitDeskHeader :=
    .trans _ _ _ (.rel _ _ deskHeader_turned) (.rel _ _ turnedDeskHeader_split)
  have hr : ColumnRules.read deskHeader = .ok deskRules := by decide +kernel
  have hr' : ColumnRules.read splitDeskHeader = .ok splitDeskRules := by decide +kernel
  obtain ⟨hkeeps, hcontent⟩ := ColumnRules.respelling_keeps_content
  obtain ⟨hanswers, hfallback⟩ := hkeeps _ _ _ _ he hr hr'
  refine ⟨he, hr, hr', hanswers, hfallback, ?_⟩
  exact hcontent _ _ ["#unsorted".toList] ["Desk".toList] "!anna&day<7".toList "karl&x=1".toList
    (by decide) (by decide)

end GatherBoard
