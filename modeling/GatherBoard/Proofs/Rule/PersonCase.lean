import GatherBoard.Proofs.FirstDates
import GatherBoard.Proofs.Rule.CanonicalText
import GatherBoard.Proofs.Rule.Matching
import GatherBoard.Proofs.Text.UpperCase
import GatherBoard.Proofs.WordFacts

/-!
# Persons in upper and lower case

A gather tag with a name alone gathers the cards of persons whose names are the same in lower
case, and with a mark in front it gathers all others. A name and its upper case therefore stand
for one person exactly if both are the same in lower case. This holds of all ASCII names, but
not of every name: where upper case makes two letters of one, the two stay apart.
-/

namespace GatherBoard

open Text

/-- A text that a gather tag can hold as the name of a person. -/
structure IsPersonName (name : Text) : Prop where
  named : name ≠ []
  plain : IsPlain name
  unsigned : IsUnsigned name
  unmarked : name.head? ≠ some '!'

/-- A tag with this body names a person. -/
def IsPersonTag (body : Text) : Prop :=
  body ≠ Tag.stickyBody ∧ ∀ kind date, ¬ Tag.IsDate body kind date

/-- Of a card with this text the header says that it is gathered, or that it is not. -/
def HeaderSays (header t : Text) (today : Date) (answer : Bool) : Prop :=
  ∃ rules, ColumnRules.read header = .ok rules ∧
    rules.matchesCard (Facts.ofText t) today = .ok answer

/-- A gather tag with the name gathers the card, and one with the name negated does not. -/
def GathersPerson (name t : Text) (today : Date) : Prop :=
  HeaderSays (gatherMark ++ name) t today true ∧
    HeaderSays (gatherMark ++ '!' :: name) t today false

variable {name body t : Text} {today : Date} {facts : Facts}

/-- A tag names a person if it is read as one. -/
theorem isPersonTag_iff (h : '\n' ∉ body) : IsPersonTag body ↔ Tag.ofBody body = .person body := by
  rw [Tag.ofBody_eq_person_iff h, IsPersonTag, eq_self_iff_true, true_and]

/-- A name in upper case is a name again. -/
theorem IsPersonName.upper (h : IsPersonName name) : IsPersonName (upper name) where
  named := upper_ne_nil h.named
  plain c hc := by
    have hkept : isReserved c = true → c ∈ name := mem_of_mem_upper hc
    refine ⟨?_, ?_, ?_⟩
    · rw [Bool.eq_false_iff]
      intro hb
      have hp := (h.plain c (hkept (isReserved_of_isBlank hb))).1
      exact Bool.false_ne_true (hp.symm.trans hb)
    · rintro rfl
      exact (h.plain _ (hkept (by decide))).2.1 rfl
    · rintro rfl
      exact (h.plain _ (hkept (by decide))).2.2 rfl
  unsigned := by
    obtain ⟨heq, hlt, hgt⟩ := h.unsigned
    exact ⟨fun hm => heq (mem_of_mem_upper hm (by decide)),
      fun hm => hlt (mem_of_mem_upper hm (by decide)),
      fun hm => hgt (mem_of_mem_upper hm (by decide))⟩
  unmarked hm := h.unmarked (head?_of_head?_upper hm (by decide))

/-- Marks in front of a name are taken off and leave the name. -/
theorem IsPersonName.isStripped (h : IsPersonName name) (marks : Nat) :
    Atom.IsStripped (List.replicate marks '!' ++ name) marks name where
  eq := rfl
  taken _ hm := h.unsigned.1 (List.mem_of_mem_head? hm)
  left rest hr := absurd (by rw [hr, List.head?_cons]) h.unmarked

/-- The atom of a name. -/
def personAtom (name : Text) (negated : Bool) : Atom := ⟨.person, .equal, .name name, negated⟩

/-- The atom of a name is one that is read. -/
theorem IsPersonName.isWellFormed (h : IsPersonName name) (negated : Bool) :
    (personAtom name negated).IsWellFormed := by
  have hsides : Atom.sides? name = none := by
    rw [Atom.sides?_of_not_mem h.plain.not_mem, Atom.cutAtSign?_eq_none_iff]
    exact h.unsigned
  have hmarked : Atom.stripNegation false (Atom.mark negated ++ name) = (negated, name) := by
    cases negated with
    | false => exact Atom.stripNegation_of_isStripped (h.isStripped 0) false
    | true => exact Atom.stripNegation_of_isStripped (h.isStripped 1) false
  exact .person h.named hsides hmarked

/-- The rules of a name alone. -/
def personRules (name : Text) (negated : Bool) : ColumnRules :=
  ⟨[⟨[personAtom name negated]⟩], false, false, [], []⟩

/-- A gather tag with a name states the rules of the name. -/
theorem IsPersonName.read_gatherTag (h : IsPersonName name) (negated : Bool) :
    ColumnRules.read (gatherMark ++ (Atom.mark negated ++ name)) =
      .ok (personRules name negated) := by
  have hr := (h.isWellFormed negated).read_describe
  have hplain : IsPlain (personAtom name negated).describe :=
    isPlain_append.mpr ⟨Atom.isPlain_mark negated, h.plain⟩
  have hread : ∀ c ∈ (personRules name negated).clauses, c.IsRead := by
    simp only [personRules, List.forall_mem_singleton]
    refine ⟨List.cons_ne_nil _ _, ?_⟩
    rw [List.forall_mem_singleton]
    exact ⟨_, hplain, hr⟩
  have hdescribe : (personRules name negated).describe = Atom.mark negated ++ name := by
    simp [ColumnRules.describe, Clause.describe, personRules, joinWith, personAtom, Atom.describe,
      Atom.mark, Value.text]
  have hb := ColumnRules.read_describe hread (List.cons_ne_nil _ _)
  rwa [hdescribe] at hb

/-- The rules of a name ask whether the card has the person. -/
theorem matchesCard_personRules (name : Text) (negated : Bool) (facts : Facts) (today : Date) :
    (personRules name negated).matchesCard facts today =
      .ok (Atom.hasPerson name facts != negated) := by
  cases h : Atom.hasPerson name facts != negated <;>
    simp [personRules, ColumnRules.matchesCard, Clause.holds, Atom.holds, personAtom, Value.text, h,
      List.anyM, List.allM, bind, Except.bind, pure, Except.pure]

/-- What a gather tag with a name says of a card. -/
theorem IsPersonName.headerSays_iff (h : IsPersonName name) (negated : Bool) (t : Text)
    (today : Date) (answer : Bool) :
    HeaderSays (gatherMark ++ (Atom.mark negated ++ name)) t today answer ↔
      (Atom.hasPerson name (Facts.ofText t) != negated) = answer := by
  unfold HeaderSays
  simp only [h.read_gatherTag, Except.ok.injEq, exists_eq_left', matchesCard_personRules]

/-- A card has a person if the name is, in lower case, that of one of its persons. -/
theorem hasPerson_iff :
    Atom.hasPerson name facts = true ↔ ∃ person ∈ facts.persons, lower person = lower name := by
  simp [Atom.hasPerson, List.any_eq_true]

/-- A name gathers the cards with a person of the same name in lower case. -/
theorem IsPersonName.gathersPerson_iff (h : IsPersonName name) :
    GathersPerson name t today ↔
      ∃ person ∈ (Facts.ofText t).persons, lower person = lower name := by
  have hplus : HeaderSays (gatherMark ++ name) t today true ↔
      Atom.hasPerson name (Facts.ofText t) = true := by
    simpa [Atom.mark] using h.headerSays_iff false t today true
  have hminus : HeaderSays (gatherMark ++ '!' :: name) t today false ↔
      Atom.hasPerson name (Facts.ofText t) = true := by
    simpa [Atom.mark] using h.headerSays_iff true t today false
  rw [GathersPerson, hplus, hminus, and_self, hasPerson_iff]

/-- The tag of a word that begins with an at sign is the rest of the word. -/
theorem mem_bodies_of_mem_words (hne : body ≠ []) (h : '@' :: body ∈ words t) :
    body ∈ Tag.bodies t := by
  rw [Tag.bodies_eq_filterMap, List.mem_filterMap]
  exact ⟨_, h, Tag.bodyOfWord?_eq_some_iff.mpr ⟨hne, [], List.not_mem_nil, rfl⟩⟩

/-- A card with the tag of a person as a word has this person. -/
theorem IsPersonTag.mem_persons (h : IsPersonTag body) (hne : body ≠ [])
    (hw : '@' :: body ∈ words t) : body ∈ (Facts.ofText t).persons :=
  Facts.mem_persons_iff.mpr ⟨mem_bodies_of_mem_words hne hw, h⟩

/-- A tag is one word. -/
theorem words_tag (hb : ∀ c ∈ body, isBlank c = false) : words ('@' :: body) = ['@' :: body] :=
  words_eq_singleton (List.cons_ne_nil _ _) (List.forall_mem_cons.mpr ⟨by decide, hb⟩)

/-- A card with one tag alone has no other person than the one of this tag. -/
theorem eq_of_mem_persons (hb : ∀ c ∈ body, isBlank c = false)
    (h : name ∈ (Facts.ofText ('@' :: body)).persons) : name = body := by
  have hm := (Facts.mem_persons_iff.mp h).1
  rw [Tag.bodies_eq_filterMap, words_tag hb, List.mem_filterMap] at hm
  obtain ⟨word, hword, he⟩ := hm
  obtain rfl := List.mem_singleton.mp hword
  rw [Tag.bodyOfWord?, if_pos rfl, Option.ite_none_left_eq_some, Option.some.injEq] at he
  exact he.2.symm

/-- On this day a name and its upper case stand for one person on every card that has either of
them as the tag of a person, whatever else is on the card. -/
def IsCaseless (name : Text) (today : Date) : Prop :=
  ∀ t : Text, '@' :: name ∈ words t ∨ '@' :: upper name ∈ words t →
    GathersPerson name t today ∧ GathersPerson (upper name) t today

/-- Persons are told apart by lower case. On every day a name gathers the cards with its own tag
and leaves them out when it is negated, and so does its upper case. Both do so with the tags of
both exactly if they are the same in lower case. They are if each character of the name has the
lower case of its image, as all of ASCII has. -/
theorem isCaseless_iff_lower (hn : IsPersonName name) (ht : IsPersonTag name)
    (hu : IsPersonTag (upper name)) (today : Date) :
    (∀ t : Text, ('@' :: name ∈ words t → GathersPerson name t today) ∧
      ('@' :: upper name ∈ words t → GathersPerson (upper name) t today)) ∧
    (IsCaseless name today ↔ lower (upper name) = lower name) ∧
    ((∀ c ∈ name, c.toNat < 128 ∨ KeepsLower c) → IsCaseless name today) := by
  have hbelow {t : Text} (hw : '@' :: name ∈ words t) : name ∈ (Facts.ofText t).persons :=
    ht.mem_persons hn.named hw
  have habove {t : Text} (hw : '@' :: upper name ∈ words t) :
      upper name ∈ (Facts.ofText t).persons := hu.mem_persons hn.upper.named hw
  have hiff : IsCaseless name today ↔ lower (upper name) = lower name := by
    constructor
    · intro h
      -- on a card with nothing but the tag in upper case only this person can be found
      have hblank : ∀ c ∈ upper name, isBlank c = false := fun c hc => (hn.upper.plain c hc).1
      have hm : '@' :: upper name ∈ words ('@' :: upper name) := by simp [words_tag hblank]
      obtain ⟨person, hp, he⟩ := hn.gathersPerson_iff.mp (h _ (Or.inr hm)).1
      rw [← he, eq_of_mem_persons hblank hp]
    · intro he t hw
      rw [hn.gathersPerson_iff, hn.upper.gathersPerson_iff]
      obtain hw | hw := hw
      · exact ⟨⟨name, hbelow hw, rfl⟩, name, hbelow hw, he.symm⟩
      · exact ⟨⟨upper name, habove hw, he⟩, upper name, habove hw, rfl⟩
  refine ⟨fun t => ⟨fun hw => ?_, fun hw => ?_⟩, hiff, fun hkeeps => hiff.mpr ?_⟩
  · exact hn.gathersPerson_iff.mpr ⟨name, hbelow hw, rfl⟩
  · exact hn.upper.gathersPerson_iff.mpr ⟨upper name, habove hw, rfl⟩
  · refine lower_upper fun c hc => ?_
    obtain hascii | hkeep := hkeeps c hc
    · exact keepsLower_of_ascii hascii
    · exact hkeep

/-- A name with marks in it and a letter beyond ASCII. -/
def soleName : Text := "zoë!@#".toList

/-- A card with its upper case among other words. -/
def soleCard : Text := "Call (@ann) \t@ZOË!@#\n@2025-03-10 @sticky".toList

/-- The card belongs to the person by the name in either case, on every day. -/
theorem soleName_caseless :
    IsPersonName soleName ∧ IsPersonTag soleName ∧ IsPersonTag (upper soleName) ∧
    (∀ c ∈ soleName, c.toNat < 128 ∨ KeepsLower c) ∧ '@' :: upper soleName ∈ words soleCard ∧
    ∀ today, HeaderSays "#gather_zoë!@#".toList soleCard today true ∧
      HeaderSays "#gather_!zoë!@#".toList soleCard today false ∧
      HeaderSays "#gather_ZOË!@#".toList soleCard today true := by
  have hn : IsPersonName soleName := ⟨by decide, by decide, by decide, by decide⟩
  have ht : IsPersonTag soleName := (isPersonTag_iff (by decide)).mpr (by decide +kernel)
  have hu : IsPersonTag (upper soleName) :=
    (isPersonTag_iff (by decide +kernel)).mpr (by decide +kernel)
  have hcheck : soleName.all (fun c => decide (c.toNat < 128) || decide (KeepsLower c)) = true := by
    decide +kernel
  have hkeeps : ∀ c ∈ soleName, c.toNat < 128 ∨ KeepsLower c := by simpa using hcheck
  have hw : '@' :: upper soleName ∈ words soleCard := by decide +kernel
  have hupper : upper soleName = "ZOË!@#".toList := by decide +kernel
  refine ⟨hn, ht, hu, hkeeps, hw, fun today => ?_⟩
  obtain ⟨hbelow, habove⟩ := (isCaseless_iff_lower hn ht hu today).2.2 hkeeps soleCard (Or.inr hw)
  rw [hupper] at habove
  exact ⟨hbelow.1, hbelow.2, habove.1⟩

/-- A name whose upper case has a letter more. -/
def sharpName : Text := "Strauß".toList

/-- On no day does the name gather the card of the same person in upper case. -/
theorem sharpName_apart :
    IsPersonName sharpName ∧ IsPersonTag sharpName ∧ upper sharpName = "STRAUSS".toList ∧
    IsPersonTag (upper sharpName) ∧ '@' :: upper sharpName ∈ words "@STRAUSS".toList ∧
    ∀ today, HeaderSays "#gather_Strauß".toList "@STRAUSS".toList today false ∧
      HeaderSays "#gather_!Strauß".toList "@STRAUSS".toList today true := by
  have hn : IsPersonName sharpName := ⟨by decide, by decide, by decide, by decide⟩
  have ht : IsPersonTag sharpName := (isPersonTag_iff (by decide)).mpr (by decide +kernel)
  have hupper : upper sharpName = "STRAUSS".toList := by decide +kernel
  have hu : IsPersonTag (upper sharpName) :=
    (isPersonTag_iff (by decide +kernel)).mpr (by decide +kernel)
  have hnone : Atom.hasPerson sharpName (Facts.ofText "@STRAUSS".toList) = false := by
    decide +kernel
  have hno : (Atom.hasPerson sharpName (Facts.ofText "@STRAUSS".toList) != false) = false := by
    rw [hnone, bne_self_eq_false]
  have hyes : (Atom.hasPerson sharpName (Facts.ofText "@STRAUSS".toList) != true) = true := by
    rw [hnone, Bool.false_bne]
  refine ⟨hn, ht, hupper, hu, by decide +kernel, fun today => ⟨?_, ?_⟩⟩
  · exact (hn.headerSays_iff false _ today false).mpr hno
  · exact (hn.headerSays_iff true _ today true).mpr hyes

end GatherBoard
