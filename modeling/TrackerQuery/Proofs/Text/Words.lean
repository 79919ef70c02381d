import Mathlib.Data.List.TakeDrop
import TrackerQuery.Proofs.Text.Blank

/-!
# TrackerQuery.Proofs.Text.Words

Laws of the **words** of a text and of the gaps between them.

A blank belongs to no word and ends the one in front of it, so the words of a text are those
in front of a blank and those behind it (`words_append`). The other laws follow from this
one: blanks at either end have no part in the words, a text read backwards has its words
read backwards (`words_reverse`), and a trimmed text is its words with gaps between
(`eq_of_words_singleton`, `eq_append_of_words`).

A gap that takes all it can in front of a value is the longest gap there
(`LeftByGap.length_le`).
-/

namespace TrackerQuery.Text

/-! ### Gaps -/

/-- A text of at least one character, all of them blank. -/
def IsGap (t : Text) : Prop :=
  t ≠ [] ∧ ∀ c ∈ t, isBlank c = true

instance (t : Text) : Decidable (IsGap t) :=
  decidable_of_iff (t ≠ [] ∧ t.all isBlank = true) (and_congr_right' List.all_eq_true)

theorem isGap_leadingBlank {t : Text} (h : leadingBlank t ≠ []) : IsGap (leadingBlank t) :=
  ⟨h, fun _ hc => List.mem_takeWhile_imp hc⟩

theorem IsGap.leadingBlank_append {gap t : Text} (hg : IsGap gap) (ht : StartsDark t) :
    leadingBlank (gap ++ t) = gap := by
  rw [leadingBlank, List.takeWhile_append_of_pos hg.2, ← leadingBlank, leadingBlank_eq_nil ht,
    List.append_nil]

theorem IsGap.dropBlank_append {gap t : Text} (hg : IsGap gap) (ht : StartsDark t) :
    dropBlank (gap ++ t) = t := by
  rw [dropBlank, List.dropWhile_append_of_pos hg.2, ← dropBlank, dropBlank_eq_self ht]

theorem IsGap.leadingBlank_append_ne_nil {gap : Text} (hg : IsGap gap) (t : Text) :
    leadingBlank (gap ++ t) ≠ [] := by
  obtain ⟨c, gap, rfl⟩ := List.exists_cons_of_ne_nil hg.1
  rw [List.cons_append, leadingBlank, List.takeWhile_cons_of_pos (hg.2 c List.mem_cons_self)]
  exact List.cons_ne_nil _ _

theorem IsGap.not_startsDark {gap : Text} (hg : IsGap gap) (t : Text) :
    ¬StartsDark (gap ++ t) := by
  obtain ⟨c, gap, rfl⟩ := List.exists_cons_of_ne_nil hg.1
  rw [List.cons_append, startsDark_cons, hg.2 c List.mem_cons_self]
  simp

theorem IsGap.reverse {gap : Text} (hg : IsGap gap) : IsGap gap.reverse :=
  ⟨by simpa using hg.1, fun c hc => hg.2 c (List.mem_reverse.mp hc)⟩

/-- A text that ends in no blank has a character behind each gap. -/
theorem IsTrimmed.ne_nil_of_gap {a gap t : Text} (h : IsTrimmed (a ++ gap ++ t)) (hg : IsGap gap) :
    t ≠ [] := by
  intro ht
  have hend := h.2
  rw [ht, List.append_nil, List.reverse_append] at hend
  exact hg.reverse.not_startsDark _ hend

theorem IsTrimmed.of_append {a t : Text} (h : IsTrimmed (a ++ t)) (ht : StartsDark t) :
    IsTrimmed t := by
  have hend := h.2
  rw [List.reverse_append] at hend
  exact ⟨ht, hend.of_append⟩

/-! ### What a gap leaves -/

/-- Holds of what stands behind a gap that takes all the blanks it can and leaves one character at
least: it is a single character, or it starts with no blank. -/
def LeftByGap (t : Text) : Prop :=
  ∃ c u, t = c :: u ∧ (isBlank c = true → u = [])

theorem LeftByGap.ne_nil {t : Text} (h : LeftByGap t) : t ≠ [] := by
  obtain ⟨c, u, rfl, -⟩ := h
  exact List.cons_ne_nil c u

theorem StartsDark.leftByGap {t : Text} (h : StartsDark t) (hne : t ≠ []) : LeftByGap t := by
  obtain ⟨c, u, rfl⟩ := List.exists_cons_of_ne_nil hne
  refine ⟨c, u, rfl, ?_⟩
  intro hc
  rw [startsDark_cons, hc] at h
  exact absurd h (by simp)

/-- At the end of a text that ends in no blank, a gap leaves no blank. -/
theorem LeftByGap.startsDark {a t : Text} (h : LeftByGap t) (hend : StartsDark (a ++ t).reverse) :
    StartsDark t := by
  obtain ⟨c, u, rfl, hu⟩ := h
  rw [startsDark_cons]
  by_contra hc
  rw [Bool.not_eq_false] at hc
  rw [hu hc, List.reverse_append, List.reverse_singleton, List.singleton_append,
    startsDark_cons, hc] at hend
  exact absurd hend (by simp)

/-- A gap that takes all it can is the longest one there. -/
theorem LeftByGap.length_le {gap t gap' t' : Text} (h : LeftByGap t) (hg' : IsGap gap')
    (ht' : t' ≠ []) (happ : gap ++ t = gap' ++ t') : t.length ≤ t'.length := by
  cases List.append_eq_append_iff.mp happ with
  | inl hlonger =>
      obtain ⟨more, rfl, rfl⟩ := hlonger
      cases more with
      | nil => exact Nat.le_refl _
      | cons c more =>
          obtain ⟨d, u, heq, hu⟩ := h
          obtain ⟨rfl, rfl⟩ := List.cons.inj heq
          have hc : isBlank c = true := hg'.2 c (List.mem_append_right gap List.mem_cons_self)
          exact absurd (List.append_eq_nil_iff.mp (hu hc)).2 ht'
  | inr hshorter =>
      obtain ⟨more, -, rfl⟩ := hshorter
      rw [List.length_append]
      exact Nat.le_add_left _ _

theorem IsGap.concat {gap : Text} (hg : IsGap gap) {c : CodePoint} (hc : isBlank c = true) :
    IsGap (gap ++ [c]) := by
  refine ⟨List.append_ne_nil_of_left_ne_nil hg.1 [c], ?_⟩
  rw [List.forall_mem_append, List.forall_mem_singleton]
  exact ⟨hg.2, hc⟩

/-- The gap that takes all it can: the blanks at the start of a text, but for the last one if
nothing follows them. -/
theorem exists_leftByGap_iff {t value : Text} :
    (∃ gap, t = gap ++ value ∧ IsGap gap ∧ LeftByGap value) ↔
      leadingBlank t ≠ [] ∧ (dropBlank t = value ∧ value ≠ [] ∨
        dropBlank t = [] ∧ 2 ≤ (leadingBlank t).length ∧
          (leadingBlank t).drop ((leadingBlank t).length - 1) = value) := by
  constructor
  · intro h
    obtain ⟨gap, rfl, hg, c, u, rfl, hu⟩ := h
    refine ⟨hg.leadingBlank_append_ne_nil (c :: u), ?_⟩
    by_cases hc : isBlank c = true
    · have hblank := hg.concat hc
      have hlead := hblank.leadingBlank_append startsDark_nil
      have hdrop := hblank.dropBlank_append startsDark_nil
      rw [List.append_nil] at hlead hdrop
      have hlen := List.length_pos_iff.mpr hg.1
      rw [hu hc, hlead, hdrop]
      exact Or.inr ⟨rfl, by simp; omega, by simp⟩
    · have hd : StartsDark (c :: u) := startsDark_cons.mpr (by simpa using hc)
      exact Or.inl ⟨hg.dropBlank_append hd, List.cons_ne_nil c u⟩
  · intro h
    obtain ⟨hlead, h⟩ := h
    have hg := isGap_leadingBlank hlead
    have happ := leadingBlank_append_dropBlank t
    cases h with
    | inl h =>
        obtain ⟨rfl, hne⟩ := h
        exact ⟨_, happ.symm, hg, (startsDark_dropBlank t).leftByGap hne⟩
    | inr h =>
        obtain ⟨hdrop, hlen, rfl⟩ := h
        rw [hdrop, List.append_nil] at happ
        rw [List.drop_length_sub_one hlead]
        refine ⟨(leadingBlank t).dropLast, ?_, ⟨?_, ?_⟩, _, _, rfl, fun _ => rfl⟩
        · rw [List.dropLast_concat_getLast, happ]
        · intro hnil
          have hzero := congrArg List.length hnil
          rw [List.length_dropLast, List.length_nil] at hzero
          omega
        · exact fun c hc => hg.2 c (List.dropLast_subset _ hc)

/-! ### The words of a text -/

@[simp] theorem words_nil : words [] = [] := rfl

theorem wordsFrom_append {c : CodePoint} (hc : isBlank c = true) (word t u : Text) :
    wordsFrom word (t ++ c :: u) = wordsFrom word t ++ words u := by
  induction t generalizing word with
  | nil =>
      rw [List.nil_append, wordsFrom, wordsFrom, if_pos hc, words]
      split <;> rfl
  | cons d t ih =>
      rw [List.cons_append, wordsFrom, wordsFrom, ih, ih]
      by_cases hd : isBlank d = true
      · rw [if_pos hd, if_pos hd]
        split <;> rfl
      · rw [if_neg hd, if_neg hd]

/-- Words are cut at a blank. -/
theorem words_append {c : CodePoint} (hc : isBlank c = true) (t u : Text) :
    words (t ++ c :: u) = words t ++ words u :=
  wordsFrom_append hc [] t u

theorem words_blank_append {blanks : Text} (hb : ∀ c ∈ blanks, isBlank c = true) (t : Text) :
    words (blanks ++ t) = words t := by
  induction blanks with
  | nil => rfl
  | cons c blanks ih =>
      have hc := words_append (hb c List.mem_cons_self) [] (blanks ++ t)
      rw [List.nil_append, words_nil, List.nil_append] at hc
      rw [List.cons_append, hc, ih fun x hx => hb x (List.mem_cons_of_mem c hx)]

theorem words_append_gap {gap : Text} (hg : IsGap gap) (t u : Text) :
    words (t ++ gap ++ u) = words t ++ words u := by
  obtain ⟨c, blanks, rfl⟩ := List.exists_cons_of_ne_nil hg.1
  rw [List.append_assoc, List.cons_append, words_append (hg.2 c List.mem_cons_self),
    words_blank_append fun x hx => hg.2 x (List.mem_cons_of_mem c hx)]

theorem wordsFrom_dark {w : Text} (hw : ∀ c ∈ w, isBlank c = false) {word : Text}
    (hne : word ≠ []) : wordsFrom word w = [word.reverse ++ w] := by
  induction w generalizing word with
  | nil =>
      have hword : word.isEmpty = false := by simpa using hne
      rw [wordsFrom, hword, if_neg (by simp), List.append_nil]
  | cons c w ih =>
      have hc : isBlank c = false := hw c List.mem_cons_self
      have hrest : ∀ x ∈ w, isBlank x = false := fun x hx => hw x (List.mem_cons_of_mem c hx)
      rw [wordsFrom, if_neg (by simp [hc]), ih hrest (List.cons_ne_nil c word),
        List.reverse_cons, List.append_assoc, List.singleton_append]

theorem words_of_isWord {w : Text} (hw : IsWord w) : words w = [w] := by
  obtain ⟨c, w, rfl⟩ := List.exists_cons_of_ne_nil hw.1
  have hc : isBlank c = false := hw.2 c List.mem_cons_self
  have hrest : ∀ x ∈ w, isBlank x = false := fun x hx => hw.2 x (List.mem_cons_of_mem c hx)
  rw [words, wordsFrom, if_neg (by simp [hc]), wordsFrom_dark hrest (List.cons_ne_nil c [])]
  rfl

/-! ### The first word -/

theorem firstWord_append_afterWord (t : Text) : firstWord t ++ afterWord t = t :=
  List.takeWhile_append_dropWhile

theorem isBlank_of_afterWord {t u : Text} {c : CodePoint} (h : afterWord t = c :: u) :
    isBlank c = true := by
  have hhead := List.head?_dropWhile_not (fun c => !isBlank c) t
  rw [← afterWord, h, List.head?_cons] at hhead
  simpa using hhead

theorem isGap_leadingBlank_afterWord {t : Text} (h : afterWord t ≠ []) :
    IsGap (leadingBlank (afterWord t)) := by
  refine isGap_leadingBlank ?_
  obtain ⟨c, u, hbehind⟩ := List.exists_cons_of_ne_nil h
  rw [hbehind, leadingBlank, List.takeWhile_cons_of_pos (isBlank_of_afterWord hbehind)]
  exact List.cons_ne_nil _ _

/-- What stands behind the gap that follows a word. -/
theorem IsWord.dropBlank_afterWord {w gap : Text} (hw : IsWord w) (hg : IsGap gap) (t : Text) :
    dropBlank (afterWord (w ++ (gap ++ t))) = dropBlank t := by
  obtain ⟨c, blanks, rfl⟩ := List.exists_cons_of_ne_nil hg.1
  rw [List.cons_append, afterWord_append hw (hg.2 c List.mem_cons_self), ← List.cons_append,
    dropBlank_blank_append hg.2]

/-- The first word of a text, what separates it from the rest, and the rest. -/
theorem firstWord_append_rest (t : Text) :
    firstWord t ++ leadingBlank (afterWord t) ++ dropBlank (afterWord t) = t := by
  rw [List.append_assoc, leadingBlank_append_dropBlank, firstWord_append_afterWord]

/-- A text that starts with no blank is its first word, or that word, a gap and the rest. -/
theorem firstWord_cases {t : Text} (ht : StartsDark t) (hne : t ≠ []) :
    IsWord (firstWord t) ∧ (t = firstWord t ∨
      ∃ gap rest, t = firstWord t ++ gap ++ rest ∧ IsGap gap ∧ StartsDark rest) := by
  obtain ⟨c, u, rfl⟩ := List.exists_cons_of_ne_nil hne
  have hc : isBlank c = false := by simpa using ht
  have hword : firstWord (c :: u) ≠ [] := by
    rw [firstWord, List.takeWhile_cons_of_pos (by simp [hc])]
    exact List.cons_ne_nil _ _
  refine ⟨isWord_firstWord hword, ?_⟩
  by_cases hbehind : afterWord (c :: u) = []
  · have happ := firstWord_append_afterWord (c :: u)
    rw [hbehind, List.append_nil] at happ
    exact Or.inl happ.symm
  · exact Or.inr ⟨_, _, (firstWord_append_rest (c :: u)).symm,
      isGap_leadingBlank_afterWord hbehind, startsDark_dropBlank _⟩

theorem words_ne_nil {t : Text} (ht : StartsDark t) (hne : t ≠ []) : words t ≠ [] := by
  obtain ⟨hword, hall | ⟨gap, rest, happ, hg, -⟩⟩ := firstWord_cases ht hne
  · rw [hall, words_of_isWord hword]
    exact List.cons_ne_nil _ _
  · rw [happ, words_append_gap hg, words_of_isWord hword]
    exact List.cons_ne_nil _ _

/-- A text of blanks has no words, and no other text. -/
theorem words_eq_nil_iff {t : Text} : words t = [] ↔ dropBlank t = [] := by
  have hwords : words t = words (dropBlank t) := by
    have hblank : ∀ c ∈ leadingBlank t, isBlank c = true := fun c hc => List.mem_takeWhile_imp hc
    rw [← words_blank_append hblank (dropBlank t), leadingBlank_append_dropBlank]
  rw [hwords]
  constructor
  · intro h
    by_contra hne
    exact words_ne_nil (startsDark_dropBlank t) hne h
  · intro h
    rw [h, words_nil]

/-! ### Trimmed texts -/

theorem eq_of_words_singleton {t w : Text} (ht : IsTrimmed t) (h : words t = [w]) :
    t = w ∧ IsWord w := by
  have hne : t ≠ [] := by
    rintro rfl
    exact absurd h (by simp)
  obtain ⟨hword, hall | ⟨gap, rest, happ, hg, hrest⟩⟩ := firstWord_cases ht.1 hne
  · rw [hall, words_of_isWord hword] at h
    obtain rfl := (List.cons.inj h).1
    exact ⟨hall, hword⟩
  · -- a second word stands behind the gap
    rw [happ, words_append_gap hg, words_of_isWord hword] at h
    rw [happ] at ht
    exact absurd (List.cons.inj h).2 (words_ne_nil hrest (ht.ne_nil_of_gap hg))

theorem eq_append_of_words {t w : Text} {ws : List Text} (ht : IsTrimmed t) (hws : ws ≠ [])
    (h : words t = w :: ws) :
    ∃ gap u, t = w ++ gap ++ u ∧ IsWord w ∧ IsGap gap ∧ IsTrimmed u ∧ words u = ws := by
  have hne : t ≠ [] := by
    rintro rfl
    exact absurd h (by simp)
  obtain ⟨hword, hall | ⟨gap, rest, happ, hg, hrest⟩⟩ := firstWord_cases ht.1 hne
  · rw [hall, words_of_isWord hword] at h
    exact absurd (List.cons.inj h).2.symm hws
  · rw [happ, words_append_gap hg, words_of_isWord hword] at h
    obtain ⟨hfirst, hlater⟩ := List.cons.inj h
    rw [hfirst] at happ hword
    rw [happ] at ht
    exact ⟨gap, rest, happ, hword, hg, ht.of_append hrest, hlater⟩

/-! ### Reading backwards -/

theorem words_reverse_of_dark {t : Text} (ht : ∀ c ∈ t, isBlank c = false) :
    words t.reverse = ((words t).map List.reverse).reverse := by
  by_cases hne : t = []
  · rw [hne]
    rfl
  · have hw : IsWord t := ⟨hne, ht⟩
    rw [words_of_isWord hw, words_of_isWord hw.reverse]
    rfl

/-- A text read backwards has its words read backwards. -/
theorem words_reverse (t : Text) : words t.reverse = ((words t).map List.reverse).reverse := by
  have hdark : ∀ c ∈ firstWord t, isBlank c = false := by
    intro c hc
    simpa using List.mem_takeWhile_imp hc
  have happ := firstWord_append_afterWord t
  cases hbehind : afterWord t with
  | nil =>
      rw [hbehind, List.append_nil] at happ
      rw [happ] at hdark
      exact words_reverse_of_dark hdark
  | cons c u =>
      have hc : isBlank c = true := isBlank_of_afterWord hbehind
      rw [hbehind] at happ
      have hlt : u.length < t.length := by
        rw [← happ, List.length_append, List.length_cons]
        omega
      rw [← happ, List.reverse_append, List.reverse_cons, List.append_assoc, List.singleton_append,
        words_append hc, words_append hc, words_reverse u, words_reverse_of_dark hdark,
        List.map_append, List.reverse_append]
termination_by t.length

end TrackerQuery.Text
