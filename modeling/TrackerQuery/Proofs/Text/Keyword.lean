import TrackerQuery.Proofs.Text.Lowercase
import TrackerQuery.Proofs.Text.Words
import TrackerQuery.Text.Keyword

/-!
# TrackerQuery.Proofs.Text.Keyword

Laws of **keywords** at the start and at the end of a text.

What is left of a text when a keyword is taken off is a part of that text. At the end
the blanks in front of the keyword go with it. A keyword reaches across no blank, so
one that is found in front of a space is the whole word there.

A character stands for one letter at most (`fold`), so a word is one keyword at most
(`eq_of_isKeyword`).
-/

namespace TrackerQuery.Text

/-- A keyword that a text starts with, and what follows it. -/
theorem afterKeyword?_eq_some_iff {k t rest : Text} :
    afterKeyword? k t = some rest ↔ ∃ w, t = w ++ rest ∧ isKeyword k w = true := by
  induction k generalizing t with
  | nil =>
      constructor
      · intro h
        exact ⟨[], Option.some.inj h, rfl⟩
      · intro h
        obtain ⟨w, rfl, hw⟩ := h
        have hnil : w = [] := by simpa [isKeyword, afterKeyword?] using hw
        rw [hnil]
        rfl
  | cons l ls ih =>
      constructor
      · intro h
        cases t with
        | nil => exact absurd h (by simp [afterKeyword?])
        | cons c t =>
            rw [afterKeyword?] at h
            split at h
            · next hf =>
                obtain ⟨w, rfl, hw⟩ := ih.mp h
                refine ⟨c :: w, rfl, ?_⟩
                rw [isKeyword, afterKeyword?, if_pos hf]
                exact hw
            · exact absurd h (by simp)
      · intro h
        obtain ⟨w, rfl, hw⟩ := h
        cases w with
        | nil => exact absurd hw (by simp [isKeyword, afterKeyword?])
        | cons c w =>
            rw [isKeyword, afterKeyword?] at hw
            rw [List.cons_append, afterKeyword?]
            split at hw
            · next hf =>
                rw [if_pos hf]
                exact ih.mpr ⟨w, rfl, hw⟩
            · exact absurd hw (by simp)

theorem afterKeyword?_suffix {k t rest : Text} (h : afterKeyword? k t = some rest) :
    rest <:+ t := by
  obtain ⟨w, rfl, -⟩ := afterKeyword?_eq_some_iff.mp h
  exact List.suffix_append w rest

/-- Behind a space, a text has no part in a keyword. -/
theorem afterKeyword?_append_space {k : Text} (hk : ∀ l ∈ k, foldsTo l ' ' = false)
    (w rest : Text) :
    afterKeyword? k (w ++ .char ' ' :: rest) =
      (afterKeyword? k w).map (· ++ .char ' ' :: rest) := by
  induction k generalizing w with
  | nil => rfl
  | cons l ls ih =>
      have hls : ∀ x ∈ ls, foldsTo x ' ' = false := fun x hx => hk x (List.mem_cons_of_mem _ hx)
      cases w with
      | nil =>
          simp [afterKeyword?, hk l List.mem_cons_self]
      | cons c w =>
          rw [List.cons_append, afterKeyword?, afterKeyword?]
          split
          · exact ih hls w
          · rfl

/-- A keyword that is looked for at the end of a text is found in front of a space only if the
last word is that keyword. -/
theorem beforeKeyword?_word {k w rest : Text} (hk : ∀ l ∈ k, foldsTo l ' ' = false)
    (hw : ∀ c ∈ w, isBlank c = false) (hr : StartsDark rest) :
    beforeKeyword? k (w ++ .char ' ' :: rest) =
      if isKeyword k.reverse w then some ([.char ' '], rest) else none := by
  have hk' : ∀ l ∈ k.reverse, foldsTo l ' ' = false := fun l hl => hk l (List.mem_reverse.mp hl)
  rw [beforeKeyword?, afterKeyword?_append_space hk', isKeyword]
  cases ha : afterKeyword? k.reverse w with
  | none => rfl
  | some u =>
      cases u with
      | nil =>
          have hl : leadingBlank (' ' :: rest) = [.char ' '] := by
            rw [leadingBlank, List.takeWhile_cons_of_pos (by decide), ← leadingBlank,
              leadingBlank_eq_nil hr]
          have hd : dropBlank (' ' :: rest) = rest := by
            rw [dropBlank_cons (by decide), dropBlank_eq_self hr]
          simp [hl, hd]
      | cons c u =>
          have hc : isBlank c = false := hw c ((afterKeyword?_suffix ha).subset List.mem_cons_self)
          have hl : leadingBlank (c :: (u ++ .char ' ' :: rest)) = [] :=
            leadingBlank_eq_nil (startsDark_cons.mpr hc)
          simp [hl]

/-- A keyword that a reversed text starts with, the gap behind it, and what follows the gap. -/
theorem beforeKeyword?_eq_some_iff {k reversed gap front : Text} :
    beforeKeyword? k reversed = some (gap, front) ↔
      StartsDark front ∧ IsGap gap ∧
        ∃ w, reversed = w ++ (gap ++ front) ∧ isKeyword k.reverse w = true := by
  rw [beforeKeyword?]
  constructor
  · intro h
    split at h
    · exact absurd h (by simp)
    · next rest ha =>
        split at h
        · exact absurd h (by simp)
        · next hne =>
            obtain ⟨rfl, rfl⟩ := Prod.mk.inj (Option.some.inj h)
            obtain ⟨w, rfl, hw⟩ := afterKeyword?_eq_some_iff.mp ha
            refine ⟨startsDark_dropBlank rest, isGap_leadingBlank (by simpa using hne), w, ?_, hw⟩
            rw [leadingBlank_append_dropBlank]
  · rintro ⟨hdark, hgap, w, rfl, hw⟩
    have hne : gap.isEmpty = false := by simpa using hgap.1
    rw [afterKeyword?_eq_some_iff.mpr ⟨w, rfl, hw⟩]
    simp only [hgap.leadingBlank_append hdark, hgap.dropBlank_append hdark, hne]
    rfl

theorem beforeKeyword?_eq_some {k reversed blanks front : Text}
    (h : beforeKeyword? k reversed = some (blanks, front)) :
    StartsDark front ∧ front <:+ reversed := by
  obtain ⟨hdark, -, w, rfl, -⟩ := beforeKeyword?_eq_some_iff.mp h
  rw [← List.append_assoc]
  exact ⟨hdark, List.suffix_append _ front⟩

/-- No keyword is found exactly if the reversed text starts with none that a blank follows. -/
theorem beforeKeyword?_eq_none_iff {k reversed : Text} :
    beforeKeyword? k reversed = none ↔
      ∀ w gap front, IsGap gap → isKeyword k.reverse w = true → reversed ≠ w ++ (gap ++ front) := by
  constructor
  · rintro hnone w gap front hgap hw rfl
    -- the blanks behind the keyword are at least those of the gap
    have hsplit : gap ++ front = leadingBlank (gap ++ front) ++ dropBlank (gap ++ front) :=
      (leadingBlank_append_dropBlank _).symm
    have hsome := beforeKeyword?_eq_some_iff.mpr ⟨startsDark_dropBlank (gap ++ front),
      isGap_leadingBlank (hgap.leadingBlank_append_ne_nil front), w, congrArg (w ++ ·) hsplit, hw⟩
    rw [hsome] at hnone
    cases hnone
  · intro h
    cases hb : beforeKeyword? k reversed with
    | none => rfl
    | some p =>
        obtain ⟨-, hgap, w, hrev, hw⟩ := beforeKeyword?_eq_some_iff.mp hb
        exact absurd hrev (h w p.1 p.2 hgap hw)

/-! ### Letters -/

/-- The letters that keywords are written in. -/
def letters : Text := "abcdefghijklmnopqrstuvwxyz".toText

/-- Holds of the words that serve as keywords: at least one letter, and nothing else. -/
def IsLetters (k : Text) : Prop :=
  k ≠ [] ∧ ∀ l ∈ k, l ∈ letters

instance (k : Text) : Decidable (IsLetters k) :=
  decidable_of_iff (k ≠ [] ∧ k.all (fun l => decide (l ∈ letters)) = true) <|
    and_congr_right' (by simp)

theorem IsLetters.reverse {k : Text} (hk : IsLetters k) : IsLetters k.reverse :=
  ⟨by simpa using hk.1, fun l hl => hk.2 l (List.mem_reverse.mp hl)⟩

/-- The letter of a keyword that a character stands for, if it stands for one. -/
def fold (c : CodePoint) : CodePoint :=
  if c.toNat = 0x130 ∨ c.toNat = 0x131 then 'i'
  else if c.toNat = 0x17F then 's'
  else if c.toNat = 0x212A then 'k'
  else c.toLower

theorem bounds_of_mem_letters {l : CodePoint} (hl : l ∈ letters) :
    l.toNat = l.toUpper.toNat + 32 ∧ 65 ≤ l.toUpper.toNat ∧ l.toUpper.toNat ≤ 90 := by
  have hall : letters.all (fun l => decide (l.toNat = l.toUpper.toNat + 32 ∧
      65 ≤ l.toUpper.toNat ∧ l.toUpper.toNat ≤ 90)) = true := by decide
  exact of_decide_eq_true (List.all_eq_true.mp hall l hl)

/-- A character stands for one letter only. -/
theorem foldsTo_iff {l : CodePoint} (hl : l ∈ letters) (c : CodePoint) :
    foldsTo l c = true ↔ fold c = l := by
  obtain ⟨hsum, hlow, hhigh⟩ := bounds_of_mem_letters hl
  have hlower : c.toLower = l ↔ c = l ∨ c = l.toUpper := toLower_eq_letter hsum ⟨hlow, hhigh⟩
  have hfolds : foldsTo l c = true ↔ c.toLower = l ∨
      (l = 'i' ∧ (c.toNat = 0x130 ∨ c.toNat = 0x131)) ∨ (l = 's' ∧ c.toNat = 0x17F) ∨
        (l = 'k' ∧ c.toNat = 0x212A) := by
    rw [hlower]
    simp [foldsTo, or_assoc]
  -- what goes by its small form is ASCII, and what the table has is not
  have hascii : 0x80 ≤ c.toNat → c.toLower ≠ l := by
    intro hc h
    have hlt : c.toNat < 0x80 := lt_of_toLower_lt (by rw [h]; omega)
    omega
  rw [hfolds, fold]
  by_cases hi : c.toNat = 0x130 ∨ c.toNat = 0x131
  · have hs : c.toNat ≠ 0x17F := by omega
    have hk : c.toNat ≠ 0x212A := by omega
    simp [hi, hs, hk, hascii (by omega), @eq_comm _ l]
  · by_cases hs : c.toNat = 0x17F
    · simp [hs, hascii (by omega), eq_comm]
    · by_cases hk : c.toNat = 0x212A
      · simp [hk, hascii (by omega), eq_comm]
      · simp [hi, hs, hk]

theorem isKeyword_iff {k : Text} (hk : ∀ l ∈ k, l ∈ letters) (w : Text) :
    isKeyword k w = true ↔ w.map fold = k := by
  induction k generalizing w with
  | nil => simp [isKeyword, afterKeyword?]
  | cons l ls ih =>
      cases w with
      | nil => simp [isKeyword, afterKeyword?]
      | cons c w =>
          have hls := ih (fun x hx => hk x (List.mem_cons_of_mem l hx)) w
          rw [isKeyword] at hls
          rw [isKeyword, afterKeyword?, List.map_cons, List.cons.injEq,
            ← foldsTo_iff (hk l List.mem_cons_self), ← hls]
          by_cases hf : foldsTo l c = true
          · rw [if_pos hf, and_iff_right hf]
          · rw [if_neg hf]
            simp [hf]

/-- A keyword read backwards. -/
theorem isKeyword_reverse {k : Text} (hk : ∀ l ∈ k, l ∈ letters) (w : Text) :
    isKeyword k.reverse w.reverse = isKeyword k w := by
  have hk' : ∀ l ∈ k.reverse, l ∈ letters := fun l hl => hk l (List.mem_reverse.mp hl)
  rw [Bool.eq_iff_iff, isKeyword_iff hk', isKeyword_iff hk, List.map_reverse, List.reverse_inj]

/-- A word is one keyword at most. -/
theorem eq_of_isKeyword {k k' w : Text} (hk : IsLetters k) (hk' : IsLetters k')
    (h : isKeyword k w = true) (h' : isKeyword k' w = true) : k = k' := by
  rw [isKeyword_iff hk.2] at h
  rw [isKeyword_iff hk'.2] at h'
  exact h.symm.trans h'

theorem not_blank_of_fold {c : CodePoint} (h : fold c ∈ letters) : isBlank c = false := by
  -- the code points that stand for a letter, with room to spare
  have hcode : (65 ≤ c.toNat ∧ c.toNat ≤ 122) ∨ (0x130 ≤ c.toNat ∧ c.toNat ≤ 0x17F) ∨
      c.toNat = 0x212A := by
    have hletter : 97 ≤ (fold c).toNat ∧ (fold c).toNat ≤ 122 := by
      obtain ⟨hsum, hlow, hhigh⟩ := bounds_of_mem_letters h
      omega
    unfold fold at hletter
    split at hletter
    · omega
    · split at hletter
      · omega
      · split at hletter
        · omega
        · rw [CodePoint.toNat_toLower] at hletter
          split at hletter <;> omega
  simp only [isBlank, Bool.or_eq_false_iff, Bool.and_eq_false_iff, decide_eq_false_iff_not,
    beq_eq_false_iff_ne]
  omega

theorem isWord_of_isKeyword {k w : Text} (hk : IsLetters k) (h : isKeyword k w = true) :
    IsWord w := by
  rw [isKeyword_iff hk.2] at h
  refine ⟨?_, ?_⟩
  · intro hw
    rw [hw, List.map_nil] at h
    exact hk.1 h.symm
  · intro c hc
    have hmem : fold c ∈ k := h ▸ List.mem_map_of_mem hc
    exact not_blank_of_fold (hk.2 _ hmem)

end TrackerQuery.Text
