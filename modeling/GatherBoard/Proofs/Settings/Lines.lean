import GatherBoard.Proofs.Text.Cuts
import GatherBoard.Proofs.Text.Trimming
import GatherBoard.Settings

/-!
# What a line of settings assigns

A line assigns a value if it is no comment and an equals sign stands in it. The key is what
stands before the first equals sign, without white space around it and in lower case. The
value is what stands after it: between two quote marks every character counts, whatever
follows the second mark, and without quote marks the value ends before the first number sign.
-/

namespace GatherBoard.Settings

open Text

/-- After white space the text begins with this character, which is none. -/
def BeginsWith (t : Text) (c : Char) : Prop :=
  isBlank c = false ∧ ∃ blank rest, AllBlank blank ∧ t = blank ++ c :: rest

/-- A mark that values can be quoted with. -/
def IsQuote (c : Char) : Prop := c = '"' ∨ c = '\''

/-- The text after an equals sign writes this value. -/
inductive HasValue : Text → Text → Prop
  | quoted {blank v rest : Text} {mark : Char} (before : AllBlank blank) (quote : IsQuote mark)
    (inside : mark ∉ v) : HasValue (blank ++ mark :: (v ++ mark :: rest)) v
  /-- Without a second mark the value ends with the line. -/
  | unclosed {blank v : Text} {mark : Char} (before : AllBlank blank) (quote : IsQuote mark)
    (inside : mark ∉ v) : HasValue (blank ++ mark :: v) (trimEnd v)
  | plain {v : Text} (unquoted : ∀ mark, BeginsWith v mark → ¬ IsQuote mark)
    (whole : '#' ∉ v) : HasValue v (trim v)
  | commented {v rest : Text} (unquoted : ∀ mark, BeginsWith v mark → ¬ IsQuote mark)
    (whole : '#' ∉ v) : HasValue (v ++ '#' :: rest) (trim v)

/-- The line assigns the value to the key. -/
inductive Assigns : Text → Text → Text → Prop
  | intro {k w value : Text} (first : '=' ∉ k) (noComment : ¬ BeginsWith k '#')
    (written : HasValue w value) : Assigns (k ++ '=' :: w) (lower (trim k)) value

variable {t k v w value line key : Text} {c mark : Char}

/-- A text begins with the first character that trimming leaves. -/
theorem beginsWith_iff : BeginsWith t c ↔ (trim t).head? = some c := by
  constructor
  · rintro ⟨hc, blank, rest, hb, rfl⟩
    rw [trim_append_cons blank rest hc, trimStart_eq_nil_iff.mpr hb, List.nil_append,
      List.head?_cons]
  · intro h
    obtain ⟨rest, hrest⟩ := List.head?_eq_some_iff.mp h
    obtain ⟨tail, -, htail⟩ := exists_trimEnd_append (trimStart t)
    obtain ⟨blank, hb, ht⟩ := exists_append_trimStart t
    have hs : trimStart t = c :: (rest ++ tail) := by
      rw [htail, ← trim, hrest, List.cons_append]
    exact ⟨not_isBlank_of_trimStart_eq_cons hs, blank, rest ++ tail, hb, hs ▸ ht⟩

/-- What a text begins with is known before any character that is not white space. -/
theorem beginsWith_append_cons {d : Char} (hd : isBlank d = false) (t rest : Text) :
    BeginsWith (t ++ d :: rest) c ↔ BeginsWith t c ∨ AllBlank t ∧ c = d := by
  have ht := trim_append_cons t rest hd
  by_cases hb : AllBlank t
  · have hn : trim t = [] := trim_eq_nil_iff.mpr hb
    rw [beginsWith_iff, beginsWith_iff, ht, hn, trimStart_eq_nil_iff.mpr hb]
    simp [hb, eq_comm]
  · have hne : trimStart t ≠ [] := fun h => hb (trimStart_eq_nil_iff.mp h)
    obtain ⟨e, more, he⟩ := List.exists_cons_of_ne_nil hne
    have hu : BeginsWith t e := by
      obtain ⟨blank, hblank, hsplit⟩ := exists_append_trimStart t
      exact ⟨not_isBlank_of_trimStart_eq_cons he, blank, more, hblank, he ▸ hsplit⟩
    rw [beginsWith_iff] at hu
    rw [beginsWith_iff, beginsWith_iff, ht, hu, he]
    simp [hb]

/-- Quote marks are no white space. -/
theorem IsQuote.not_isBlank (h : IsQuote c) : isBlank c = false := by
  obtain rfl | rfl := h <;> decide

/-- A text starts with a character if this is its first one. -/
theorem isPrefixOf_singleton_iff : [c].isPrefixOf t = true ↔ t.head? = some c := by
  rw [List.isPrefixOf_iff_prefix, List.head?_eq_some_iff]
  exact exists_congr fun _ => eq_comm

/-- What begins a text begins every longer one. -/
theorem BeginsWith.append (h : BeginsWith t c) (more : Text) : BeginsWith (t ++ more) c := by
  obtain ⟨hc, blank, rest, hb, rfl⟩ := h
  exact ⟨hc, blank, rest ++ more, hb, by simp⟩

/-- The value after a quote mark ends before the next one. -/
theorem readValue_quote (h : IsQuote mark) (rest : Text) :
    readValue (mark :: rest) = rest.takeWhile (· != mark) := by
  have hq : (decide (mark = '"') || decide (mark = '\'')) = true := by simpa [IsQuote] using h
  simp only [readValue]
  rw [if_pos hq]

/-- The value of a text that begins with no quote mark ends before the first number sign. -/
theorem readValue_unquoted (h : ∀ c, t.head? = some c → ¬ IsQuote c) :
    readValue t = if '#' ∈ t then trim (t.takeWhile (· != '#')) else t := by
  cases t with
  | nil => rfl
  | cons c rest =>
    have hc : ¬ (decide (c = '"') || decide (c = '\'')) = true := by simpa [IsQuote] using h c rfl
    simp only [readValue]
    rw [if_neg hc]
    simp only [List.contains_iff_mem]

/-- The value that a text writes is read. -/
theorem HasValue.readValue_eq (h : HasValue w v) : readValue (trim w) = v := by
  cases h with
  | @quoted blank v rest mark before quote inside =>
    have ht : trim (blank ++ mark :: (v ++ mark :: rest)) = mark :: (v ++ mark :: trimEnd rest) := by
      rw [trim_append_cons _ _ quote.not_isBlank, trimStart_eq_nil_iff.mpr before,
        trimEnd_append_cons _ _ quote.not_isBlank, List.nil_append]
    rw [ht, readValue_quote quote, takeWhile_append_cons inside]
  | @unclosed blank v mark before quote inside =>
    have ht : trim (blank ++ mark :: v) = mark :: trimEnd v := by
      rw [trim_append_cons _ _ quote.not_isBlank, trimStart_eq_nil_iff.mpr before, List.nil_append]
    have hm : mark ∉ trimEnd v := fun hm => inside (mem_of_mem_trimEnd hm)
    rw [ht, readValue_quote quote, List.takeWhile_eq_self_iff.mpr (bne_of_not_mem hm)]
  | plain unquoted whole =>
    have hn : '#' ∉ trim w := fun hm => whole (mem_of_mem_trim hm)
    rw [readValue_unquoted (fun c hc => unquoted c (beginsWith_iff.mpr hc)), if_neg hn]
  | @commented v rest unquoted whole =>
    have ht : trim (v ++ '#' :: rest) = trimStart v ++ '#' :: trimEnd rest :=
      trim_append_cons v rest (by decide)
    have hhead : ∀ c, (trim (v ++ '#' :: rest)).head? = some c → ¬ IsQuote c := by
      intro c hc
      obtain hb | ⟨-, rfl⟩ := (beginsWith_append_cons (by decide) v rest).mp (beginsWith_iff.mpr hc)
      · exact unquoted c hb
      · rintro (h | h) <;> cases h
    have hn : '#' ∉ trimStart v := fun hm => whole (mem_of_mem_trimStart hm)
    rw [readValue_unquoted hhead, ht, if_pos (by simp), takeWhile_append_cons hn, trim_trimStart]

/-- Every text writes a value. -/
theorem exists_hasValue (w : Text) : ∃ v, HasValue w v := by
  by_cases hq : ∃ mark, BeginsWith w mark ∧ IsQuote mark
  · obtain ⟨mark, ⟨-, blank, u, hb, rfl⟩, hm⟩ := hq
    by_cases hmem : mark ∈ u
    · obtain ⟨v, rest, rfl, hv⟩ := List.eq_append_cons_of_mem hmem
      exact ⟨v, .quoted hb hm hv⟩
    · exact ⟨trimEnd u, .unclosed hb hm hmem⟩
  · have hu : ∀ mark, BeginsWith w mark → ¬ IsQuote mark := fun mark hb hm => hq ⟨mark, hb, hm⟩
    by_cases hmem : '#' ∈ w
    · obtain ⟨v, rest, rfl, hv⟩ := List.eq_append_cons_of_mem hmem
      exact ⟨trim v, .commented (fun mark hb => hu mark (hb.append _)) hv⟩
    · exact ⟨trim w, .plain hu hmem⟩

/-- What is read is the value that the text writes. -/
theorem hasValue_iff : HasValue w v ↔ readValue (trim w) = v := by
  constructor
  · exact HasValue.readValue_eq
  · rintro rfl
    obtain ⟨v, hv⟩ := exists_hasValue w
    rw [hv.readValue_eq]
    exact hv

/-- A line without an equals sign assigns nothing. -/
theorem readLine?_of_not_mem (h : '=' ∉ line) : readLine? line = none := by
  have hn : '=' ∉ trim line := fun hm => h (mem_of_mem_trim hm)
  have hd : (trim line).dropWhile (· != '=') = [] :=
    List.dropWhile_eq_nil_iff.mpr (bne_of_not_mem hn)
  unfold readLine?
  simp only [hd]
  split <;> rfl

/-- A comment assigns nothing. -/
theorem readLine?_of_beginsWith (h : BeginsWith line '#') : readLine? line = none := by
  unfold readLine?
  rw [if_pos (isPrefixOf_singleton_iff.mpr (beginsWith_iff.mp h))]

/-- Any other line assigns what follows the first equals sign to what stands before it. -/
theorem readLine?_append (hk : '=' ∉ k) (hc : ¬ BeginsWith k '#') (w : Text) :
    readLine? (k ++ '=' :: w) = some (lower (trim k), readValue (trim w)) := by
  have ht : trim (k ++ '=' :: w) = trimStart k ++ '=' :: trimEnd w :=
    trim_append_cons k w (by decide)
  have hs : '=' ∉ trimStart k := fun hm => hk (mem_of_mem_trimStart hm)
  have hdrop : (trim (k ++ '=' :: w)).dropWhile (· != '=') = '=' :: trimEnd w := by
    rw [ht, dropWhile_append_cons hs]
  have htake : (trim (k ++ '=' :: w)).takeWhile (· != '=') = trimStart k := by
    rw [ht, takeWhile_append_cons hs]
  have hstart : ¬ ['#'].isPrefixOf (trim (k ++ '=' :: w)) = true := by
    rw [isPrefixOf_singleton_iff, ← beginsWith_iff, beginsWith_append_cons (by decide)]
    simp [hc]
  unfold readLine?
  rw [if_neg hstart]
  simp only [hdrop, htake, trim_trimStart, trim_trimEnd]

/-- A line is read as the assignment that stands in it. -/
theorem readLine?_eq_some_iff : readLine? line = some (key, value) ↔ Assigns line key value := by
  constructor
  · intro h
    by_cases hm : '=' ∈ line
    · obtain ⟨k, w, rfl, hk⟩ := List.eq_append_cons_of_mem hm
      by_cases hc : BeginsWith k '#'
      · rw [readLine?_of_beginsWith (hc.append _)] at h
        cases h
      · rw [readLine?_append hk hc, Option.some.injEq, Prod.mk.injEq] at h
        obtain ⟨rfl, hv⟩ := h
        exact .intro hk hc (hasValue_iff.mpr hv)
    · rw [readLine?_of_not_mem hm] at h
      cases h
  · rintro ⟨hk, hc, hw⟩
    rw [readLine?_append hk hc, hasValue_iff.mp hw]

/-- A line assigns one value to one key. -/
theorem Assigns.unique {key' value' : Text} (h : Assigns line key value)
    (h' : Assigns line key' value') : key = key' ∧ value = value' := by
  have he := (readLine?_eq_some_iff.mpr h).symm.trans (readLine?_eq_some_iff.mpr h')
  rw [Option.some.injEq, Prod.mk.injEq] at he
  exact he

end GatherBoard.Settings
