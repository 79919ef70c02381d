import Mathlib.Data.List.TakeWhile
import TrackerQuery.Text.Basic

/-!
# TrackerQuery.Proofs.Text.Blank

Laws of **blanks and trimming**.

`IsTrimmed` says that a text has no blank at either end, `IsWord` that it is not
empty and has no blank at all. Trimming yields a trimmed text and leaves a trimmed
one as it is, and a word in front of a blank is cut off whole.
-/

namespace TrackerQuery.Text

/-- A text without a blank at its start. -/
def StartsDark (t : Text) : Prop :=
  ∀ c ∈ t.head?, isBlank c = false

/-- A text without blanks at either end. -/
def IsTrimmed (t : Text) : Prop :=
  StartsDark t ∧ StartsDark t.reverse

/-- A text of at least one character, none of them blank. -/
def IsWord (t : Text) : Prop :=
  t ≠ [] ∧ ∀ c ∈ t, isBlank c = false

/-- A property that no character of a text has can be computed. -/
theorem forall_mem_of_any {p : CodePoint → Bool} {t : Text} (h : t.any p = false) :
    ∀ c ∈ t, p c = false := by
  intro c hc
  exact Bool.eq_false_iff.mpr (List.any_eq_false.mp h c hc)

instance (t : Text) : Decidable (IsWord t) :=
  decidable_of_iff (t ≠ [] ∧ t.any isBlank = false) <|
    and_congr_right' ⟨forall_mem_of_any, fun h => by simpa using h⟩

/-! ### Leading blanks -/

@[simp] theorem startsDark_nil : StartsDark [] := by
  simp [StartsDark]

@[simp] theorem startsDark_cons {c : CodePoint} {t : Text} :
    StartsDark (c :: t) ↔ isBlank c = false := by
  simp [StartsDark]

instance (t : Text) : Decidable (StartsDark t) :=
  match t with
  | [] => isTrue startsDark_nil
  | _ :: _ => decidable_of_iff _ startsDark_cons.symm

instance (t : Text) : Decidable (IsTrimmed t) :=
  inferInstanceAs (Decidable (_ ∧ _))

theorem StartsDark.append {t : Text} (h : StartsDark t) (hne : t ≠ []) (u : Text) :
    StartsDark (t ++ u) := by
  cases t with
  | nil => exact absurd rfl hne
  | cons c t => simpa using h

theorem StartsDark.of_append {t u : Text} (h : StartsDark (t ++ u)) : StartsDark t := by
  cases t with
  | nil => exact startsDark_nil
  | cons c t => simpa using h

theorem startsDark_dropBlank (t : Text) : StartsDark (dropBlank t) := by
  intro c hc
  have h := List.head?_dropWhile_not isBlank t
  rw [show t.dropWhile isBlank = dropBlank t from rfl, Option.mem_def.mp hc] at h
  simpa using h

theorem dropBlank_eq_self {t : Text} (h : StartsDark t) : dropBlank t = t := by
  cases t with
  | nil => rfl
  | cons c t => rw [dropBlank, List.dropWhile_cons_of_neg (by simpa using h)]

theorem leadingBlank_eq_nil {t : Text} (h : StartsDark t) : leadingBlank t = [] := by
  cases t with
  | nil => rfl
  | cons c t => rw [leadingBlank, List.takeWhile_cons_of_neg (by simpa using h)]

theorem dropBlank_cons {c : CodePoint} (hc : isBlank c = true) (t : Text) :
    dropBlank (c :: t) = dropBlank t :=
  List.dropWhile_cons_of_pos hc

theorem leadingBlank_append_dropBlank (t : Text) : leadingBlank t ++ dropBlank t = t :=
  List.takeWhile_append_dropWhile

theorem dropBlank_suffix (t : Text) : dropBlank t <:+ t :=
  List.dropWhile_suffix isBlank

theorem dropBlank_blank_append {blanks : Text} (h : ∀ c ∈ blanks, isBlank c = true) (t : Text) :
    dropBlank (blanks ++ t) = dropBlank t :=
  List.dropWhile_append_of_pos h

/-! ### Trimming -/

theorem dropBlankEnd_eq_self {t : Text} (h : StartsDark t.reverse) : dropBlankEnd t = t := by
  rw [dropBlankEnd, dropBlank_eq_self h, List.reverse_reverse]

theorem strip_eq_self {t : Text} (h : IsTrimmed t) : strip t = t := by
  rw [strip, dropBlank_eq_self h.1, dropBlankEnd_eq_self h.2]

theorem strip_cons {c : CodePoint} (hc : isBlank c = true) (t : Text) :
    strip (c :: t) = strip t := by
  rw [strip, dropBlank_cons hc, ← strip]

theorem strip_concat {t : Text} (ht : IsTrimmed t) (hne : t ≠ []) {c : CodePoint}
    (hc : isBlank c = true) : strip (t ++ [c]) = t := by
  rw [strip, dropBlank_eq_self (ht.1.append hne _), dropBlankEnd, List.reverse_append,
    List.reverse_singleton, List.singleton_append, dropBlank_cons hc, dropBlank_eq_self ht.2,
    List.reverse_reverse]

/-- Only blanks are lost at the end of a text. -/
theorem dropBlankEnd_append (t : Text) :
    ∃ blanks, dropBlankEnd t ++ blanks = t ∧ ∀ c ∈ blanks, isBlank c = true := by
  refine ⟨(leadingBlank t.reverse).reverse, ?_, ?_⟩
  · rw [dropBlankEnd, ← List.reverse_append, leadingBlank_append_dropBlank, List.reverse_reverse]
  · intro c hc
    exact List.mem_takeWhile_imp (List.mem_reverse.mp hc)

/-- Only blanks are lost at the ends of a text. -/
theorem exists_append_strip (t : Text) :
    ∃ front back, t = front ++ strip t ++ back ∧ (∀ c ∈ front, isBlank c = true) ∧
      ∀ c ∈ back, isBlank c = true := by
  obtain ⟨back, happ, hback⟩ := dropBlankEnd_append (dropBlank t)
  refine ⟨leadingBlank t, back, ?_, fun c hc => List.mem_takeWhile_imp hc, hback⟩
  rw [strip, List.append_assoc, happ, leadingBlank_append_dropBlank]

theorem countP_dropBlankEnd {p : CodePoint → Bool} (hp : ∀ c, isBlank c = true → p c = false)
    (t : Text) : (dropBlankEnd t).countP p = t.countP p := by
  obtain ⟨blanks, happ, hblank⟩ := dropBlankEnd_append t
  have hzero : blanks.countP p = 0 :=
    List.countP_eq_zero.mpr fun c hc => by simp [hp c (hblank c hc)]
  have hcount := congrArg (List.countP p) happ
  rwa [List.countP_append, hzero, Nat.add_zero] at hcount

theorem countP_strip {p : CodePoint → Bool} (hp : ∀ c, isBlank c = true → p c = false) (t : Text) :
    (strip t).countP p = t.countP p := by
  have hzero : (leadingBlank t).countP p = 0 :=
    List.countP_eq_zero.mpr fun c hc => by simp [hp c (List.mem_takeWhile_imp hc)]
  have hcount := congrArg (List.countP p) (leadingBlank_append_dropBlank t)
  rwa [List.countP_append, hzero, Nat.zero_add, ← countP_dropBlankEnd hp, ← strip] at hcount

/-- Only the end of a text is trimmed if it starts with a text that has none to trim and goes on
with a character that is not blank. -/
theorem strip_append {u t : Text} (hu : StartsDark u) (hne : u ≠ []) {c : CodePoint} (hc : c ∈ t)
    (hb : isBlank c = false) : strip (u ++ t) = u ++ dropBlankEnd t := by
  have hd : t.reverse.dropWhile isBlank ≠ [] := by
    rw [ne_eq, List.dropWhile_eq_nil_iff]
    intro h
    rw [h c (List.mem_reverse.mpr hc)] at hb
    exact absurd hb (by simp)
  rw [strip, dropBlank_eq_self (hu.append hne t), dropBlankEnd, dropBlank, List.reverse_append,
    List.dropWhile_append, if_neg (by simpa using hd), List.reverse_append, List.reverse_reverse]
  rfl

theorem StartsDark.dropBlankEnd {t : Text} (h : StartsDark t) : StartsDark (dropBlankEnd t) := by
  obtain ⟨blanks, happ, -⟩ := dropBlankEnd_append t
  rw [← happ] at h
  exact h.of_append

theorem isTrimmed_strip (t : Text) : IsTrimmed (strip t) := by
  refine ⟨(startsDark_dropBlank t).dropBlankEnd, ?_⟩
  rw [strip, dropBlankEnd, List.reverse_reverse]
  exact startsDark_dropBlank _

theorem mem_of_mem_strip {t : Text} {c : CodePoint} (h : c ∈ strip t) : c ∈ t := by
  obtain ⟨blanks, happ, -⟩ := dropBlankEnd_append (dropBlank t)
  have hc : c ∈ dropBlank t := happ ▸ List.mem_append_left blanks h
  exact (dropBlank_suffix t).subset hc

/-- Trimming takes nothing but blanks away. -/
theorem mem_dropBlankEnd {t : Text} {c : CodePoint} (h : c ∈ t) (hb : isBlank c = false) :
    c ∈ dropBlankEnd t := by
  obtain ⟨blanks, happ, hblank⟩ := dropBlankEnd_append t
  rw [← happ, List.mem_append] at h
  refine h.resolve_right fun hl => ?_
  rw [hblank c hl] at hb
  exact absurd hb (by simp)

theorem mem_strip {t : Text} {c : CodePoint} (h : c ∈ t) (hb : isBlank c = false) :
    c ∈ strip t := by
  refine mem_dropBlankEnd ?_ hb
  rw [← leadingBlank_append_dropBlank t, List.mem_append] at h
  refine h.resolve_left fun hl => ?_
  rw [List.mem_takeWhile_imp hl] at hb
  exact absurd hb (by simp)

theorem isAllBlank_eq_false {t : Text} {c : CodePoint} (hc : c ∈ t) (hb : isBlank c = false) :
    isAllBlank t = false := by
  rw [isAllBlank, List.all_eq_false]
  exact ⟨c, hc, by simp [hb]⟩

/-- Trimming leaves nothing exactly of texts of blanks. -/
theorem isEmpty_strip (t : Text) : (strip t).isEmpty = isAllBlank t := by
  rw [Bool.eq_iff_iff, List.isEmpty_iff, isAllBlank, List.all_eq_true]
  constructor
  · intro h c hc
    by_contra hb
    have hmem := mem_strip hc (Bool.eq_false_iff.mpr hb)
    rw [h] at hmem
    cases hmem
  · intro h
    have hdrop : dropBlank t = [] := List.dropWhile_eq_nil_iff.mpr h
    rw [strip, hdrop]
    rfl

theorem isAllBlank_append {t : Text} (h : isAllBlank t = false) (u : Text) :
    isAllBlank (t ++ u) = false := by
  rw [isAllBlank, List.all_append, ← isAllBlank, h, Bool.false_and]

theorem dropBlank_append {t : Text} (h : isAllBlank t = false) (u : Text) :
    dropBlank (t ++ u) = dropBlank t ++ u := by
  have hne : (t.dropWhile isBlank).isEmpty = false := by
    rw [List.isEmpty_eq_false_iff, ne_eq, List.dropWhile_eq_nil_iff, ← List.all_eq_true,
      ← isAllBlank, h]
    exact Bool.false_ne_true
  rw [dropBlank, List.dropWhile_append, hne, if_neg Bool.false_ne_true, ← dropBlank]

/-! ### Words -/

theorem IsWord.startsDark {t : Text} (h : IsWord t) : StartsDark t := by
  intro c hc
  exact h.2 c (List.mem_of_mem_head? hc)

theorem IsWord.ne_space {t : Text} (h : IsWord t) : ∀ c ∈ t, c ≠ ' ' := by
  rintro c hc rfl
  exact absurd (h.2 _ hc) (by decide)

theorem IsWord.reverse {t : Text} (h : IsWord t) : IsWord t.reverse :=
  ⟨by simpa using h.1, fun c hc => h.2 c (List.mem_reverse.mp hc)⟩

theorem IsWord.isTrimmed {t : Text} (h : IsWord t) : IsTrimmed t :=
  ⟨h.startsDark, h.reverse.startsDark⟩

/-- Behind a word only blanks are trimmed. -/
theorem strip_append_word {t w blanks : Text} (ht : isAllBlank t = false) (hw : IsWord w)
    (hb : ∀ c ∈ blanks, isBlank c = true) : strip (t ++ w ++ blanks) = dropBlank t ++ w := by
  have hb' : ∀ c ∈ blanks.reverse, isBlank c = true := fun c hc => hb c (List.mem_reverse.mp hc)
  have hdark : StartsDark (w.reverse ++ (dropBlank t).reverse) :=
    hw.reverse.startsDark.append hw.reverse.1 _
  rw [strip, List.append_assoc, dropBlank_append ht, dropBlankEnd, ← List.append_assoc,
    List.reverse_append, dropBlank_blank_append hb', List.reverse_append,
    dropBlank_eq_self hdark, ← List.reverse_append, List.reverse_reverse]

/-- A word in front of a blank is the first word of the text. -/
theorem firstWord_append {w : Text} (hw : IsWord w) {c : CodePoint} (hc : isBlank c = true)
    (t : Text) :
    firstWord (w ++ c :: t) = w := by
  rw [firstWord, List.takeWhile_append_of_pos (by intro x hx; simp [hw.2 x hx]),
    List.takeWhile_cons_of_neg (by simp [hc]), List.append_nil]

theorem afterWord_append {w : Text} (hw : IsWord w) {c : CodePoint} (hc : isBlank c = true)
    (t : Text) :
    afterWord (w ++ c :: t) = c :: t := by
  rw [afterWord, List.dropWhile_append_of_pos (by intro x hx; simp [hw.2 x hx]),
    List.dropWhile_cons_of_neg (by simp [hc])]

theorem isWord_firstWord {t : Text} (h : firstWord t ≠ []) : IsWord (firstWord t) :=
  ⟨h, fun c hc => by simpa using List.mem_takeWhile_imp hc⟩

theorem compact_eq_self {t : Text} (h : ∀ c ∈ t, isBlank c = false) : compact t = t := by
  rw [compact, List.filter_eq_self]
  intro c hc
  simp [h c hc]

theorem mem_compact {t : Text} {c : CodePoint} : c ∈ compact t ↔ c ∈ t ∧ isBlank c = false := by
  simp [compact]

theorem compact_blank {t : Text} (h : ∀ c ∈ t, isBlank c = true) : compact t = [] := by
  rw [compact, List.filter_eq_nil_iff]
  intro c hc
  simp [h c hc]

theorem compact_dropBlankEnd (t : Text) : compact (dropBlankEnd t) = compact t := by
  obtain ⟨blanks, happ, hblank⟩ := dropBlankEnd_append t
  have hcompact := congrArg compact happ
  rwa [compact, List.filter_append, ← compact, ← compact, compact_blank hblank,
    List.append_nil] at hcompact

theorem compact_dropBlank (t : Text) : compact (dropBlank t) = compact t := by
  have hblank : ∀ c ∈ leadingBlank t, isBlank c = true := fun c hc => List.mem_takeWhile_imp hc
  have hcompact := congrArg compact (leadingBlank_append_dropBlank t)
  rwa [compact, List.filter_append, ← compact, ← compact, compact_blank hblank,
    List.nil_append] at hcompact

/-! ### Joining -/

theorem join_singleton (sep t : Text) : join sep [t] = t := by
  simp [join]

theorem join_cons_cons (sep t u : Text) (ts : List Text) :
    join sep (t :: u :: ts) = t ++ sep ++ join sep (u :: ts) := by
  simp [join, List.intercalate]

end TrackerQuery.Text
