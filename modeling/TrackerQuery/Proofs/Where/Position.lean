import TrackerQuery.Proofs.Text.Lowercase
import TrackerQuery.Proofs.Where.Clause

/-!
# TrackerQuery.Proofs.Where.Position

Where a where expression is cut, told by **positions**.

The rule looks at a position of the text and at nothing a scan remembers: which quote is open
there (`openAt`), and whether the connective stands there (`IsAndAt`). `cutPositions` are the
positions at which both allow a cut, and `segments` what is left of the text when the four
characters of the connective are taken out at each of them.

A cut at one position rules out the three behind it, for the letters of a connective start no
other (`cutsFrom_of_isCut`). That makes the positions behind a given one a recursion of the
same steps as the scan, and everything here is an induction over these steps
(`cutsFrom_induction`).

Main statement: `clauses_eq_segments`.
-/

namespace TrackerQuery.Where

/-! ### The rule -/

/-- The character directly in front of a position. -/
def charBefore? (w : Text) : Nat → Option CodePoint
  | 0 => none
  | i + 1 => w[i]?

/-- The quote at a position, if there is one and no backslash stands directly in front of it. -/
def quoteAt? (w : Text) (i : Nat) : Option CodePoint :=
  w[i]?.filter fun c => Literal.isQuote c && charBefore? w i != some (.char '\\')

/-- The quote that is open in front of a position. A quote opens a literal if none is open, and
closes the one that the same quote opened. -/
def openAt (w : Text) : Nat → Option CodePoint
  | 0 => none
  | i + 1 =>
    match openAt w i, quoteAt? w i with
    | opened, none => opened
    | none, some c => some c
    | some q, some c => if c = q then none else some q

/-- Whether the connective stands at a position: a space and the word *and* in any case, and then a
blank or the end of the text. -/
def IsAndAt (w : Text) (i : Nat) : Prop :=
  Text.lower ((w.drop i).take 4) = " and".toText ∧ w[i + 4]?.all Text.isBlank = true

instance (w : Text) (i : Nat) : Decidable (IsAndAt w i) :=
  inferInstanceAs (Decidable (_ ∧ _))

/-- Whether the text is cut at a position: the connective stands there outside quotes. -/
def IsCut (w : Text) (i : Nat) : Prop :=
  openAt w i = none ∧ IsAndAt w i

instance (w : Text) (i : Nat) : Decidable (IsCut w i) :=
  inferInstanceAs (Decidable (_ ∧ _))

/-- The positions at which the text is cut, from a given one on. -/
def cutsFrom (w : Text) (i : Nat) : List Nat :=
  (List.range' i (w.length - i)).filter fun j => IsCut w j

/-- The positions at which the text is cut. -/
def cutPositions (w : Text) : List Nat :=
  (List.range w.length).filter fun i => IsCut w i

/-- What is left of the text from a position on when four characters are taken out at each of some
positions behind it. -/
def segments (w : Text) (i : Nat) : List Nat → List Text
  | [] => [w.drop i]
  | p :: ps => (w.drop i).take (p - i) :: segments w (p + 4) ps

/-- Segments with what was taken out put back between them. -/
def putBack (w : Text) : List Text → List Nat → Text
  | s :: rest, p :: ps => s ++ (w.drop p).take 4 ++ putBack w rest ps
  | rest, _ => rest.flatten

/-! ### The connective -/

theorem startsWithAnd_iff (t : Text) :
    startsWithAnd t = true ↔
      Text.lower (t.take 4) = " and".toText ∧ atWordEnd (t.drop 4) = true := by
  have hand : " and".toText = [.char ' ', .char 'a', .char 'n', .char 'd'] := rfl
  have hall : " and".toText.all (fun x => decide (Text.OnlyFromAscii x)) = true := by decide
  rw [Text.lower_eq_iff fun x hx => of_decide_eq_true (List.all_eq_true.mp hall x hx)]
  match t with
  | [] => simp [startsWithAnd, hand]
  | [_] => simp [startsWithAnd, hand]
  | [_, _] => simp [startsWithAnd, hand]
  | [_, _, _] => simp [startsWithAnd, hand]
  | s :: a :: n :: d :: rest =>
      have hs : s.toLower = ' ' ↔ s = ' ' := by
        rw [Text.toLower_eq_iff (by decide), or_iff_left (by simp; omega)]
      have ha : a.toLower = 'a' ↔ a = 'a' ∨ a = 'A' := Text.toLower_eq_letter rfl (by decide)
      have hn : n.toLower = 'n' ↔ n = 'n' ∨ n = 'N' := Text.toLower_eq_letter rfl (by decide)
      have hd : d.toLower = 'd' ↔ d = 'd' ∨ d = 'D' := Text.toLower_eq_letter rfl (by decide)
      by_cases h : s = ' '
      · subst h
        simp [startsWithAnd, hand, hs, ha, hn, hd, and_assoc]
      · rw [startsWithAnd_of_ne h]
        simp [hand, hs, h]

theorem atWordEnd_drop (w : Text) (i : Nat) : atWordEnd (w.drop i) = w[i]?.all Text.isBlank := by
  rw [← List.head?_drop]
  cases w.drop i <;> rfl

theorem isAndAt_iff {w : Text} {i : Nat} : IsAndAt w i ↔ startsWithAnd (w.drop i) = true := by
  rw [startsWithAnd_iff, List.drop_drop, atWordEnd_drop]
  rfl

/-! ### The scan, told by positions -/

/-- The state of the scan in front of a position. -/
def scanAt (w : Text) (i : Nat) : Scan :=
  ⟨openAt w i, charBefore? w i⟩

theorem scanAt_zero (w : Text) : scanAt w 0 = Scan.start := rfl

theorem step_scanAt {w : Text} {i : Nat} {c : CodePoint} {t : Text} (h : w.drop i = c :: t) :
    (scanAt w i).step c = scanAt w (i + 1) := by
  have hc : w[i]? = some c := by rw [← List.head?_drop, h, List.head?_cons]
  unfold Scan.step scanAt
  rw [openAt, quoteAt?, charBefore?, hc, Option.filter_some]
  by_cases hq : (Literal.isQuote c && charBefore? w i != some (.char '\\')) = true
  · rw [if_pos hq, if_pos hq]
    cases openAt w i <;> rfl
  · rw [if_neg hq, if_neg hq]

/-- The scan ends a piece exactly where the text is cut. -/
theorem isCut_iff {w : Text} {i : Nat} {c : CodePoint} {t : Text} (h : w.drop i = c :: t) :
    IsCut w i ↔ ((scanAt w i).step c).opened = none ∧ startsWithAnd (c :: t) = true := by
  rw [IsCut, isAndAt_iff, h, and_congr_left_iff]
  intro hand
  obtain ⟨a, n, d, rest, he, -⟩ := eq_of_startsWithAnd hand
  obtain ⟨rfl, -⟩ := List.cons.inj he
  rw [Scan.step_opened_of_not_quote (by decide)]
  rfl

/-! ### One cut after another -/

theorem drop_succ_of_drop {w : Text} {i : Nat} {c : CodePoint} {t : Text} (h : w.drop i = c :: t) :
    w.drop (i + 1) = t := by
  rw [← List.drop_drop, h, List.drop_one, List.tail_cons]

theorem mem_cutsFrom {w : Text} {i p : Nat} (h : p ∈ cutsFrom w i) : i ≤ p :=
  (List.mem_range'_1.mp (List.mem_of_mem_filter h)).1

theorem cutsFrom_of_length_le {w : Text} {i : Nat} (h : w.length ≤ i) : cutsFrom w i = [] := by
  rw [cutsFrom, Nat.sub_eq_zero_of_le h]
  rfl

theorem cutsFrom_cons {w : Text} {i : Nat} (h : i < w.length) :
    cutsFrom w i = if IsCut w i then i :: cutsFrom w (i + 1) else cutsFrom w (i + 1) := by
  have hlen : w.length - i = w.length - (i + 1) + 1 := by omega
  rw [cutsFrom, hlen, List.range'_succ, List.filter_cons]
  simp only [decide_eq_true_eq, cutsFrom]

theorem cutsFrom_of_not_isCut {w : Text} {i : Nat} (h : ¬IsCut w i) :
    cutsFrom w i = cutsFrom w (i + 1) := by
  by_cases hi : i < w.length
  · rw [cutsFrom_cons hi, if_neg h]
  · rw [cutsFrom_of_length_le (by omega), cutsFrom_of_length_le (by omega)]

theorem IsCut.drop_eq {w : Text} {i : Nat} (h : IsCut w i) :
    ∃ a n d, w.drop i = .char ' ' :: a :: n :: d :: w.drop (i + 4) ∧
      a ≠ ' ' ∧ n ≠ ' ' ∧ d ≠ ' ' := by
  obtain ⟨a, n, d, rest, he, ha, hn, hd⟩ := eq_of_startsWithAnd (isAndAt_iff.mp h.2)
  refine ⟨a, n, d, ?_, ?_, ?_, ?_⟩
  · rw [← List.drop_drop, he]
    rfl
  · rcases ha with rfl | rfl <;> decide
  · rcases hn with rfl | rfl <;> decide
  · rcases hd with rfl | rfl <;> decide

theorem not_isCut_of_ne {w : Text} {i : Nat} {c : CodePoint} {t : Text} (h : w.drop i = c :: t)
    (hc : c ≠ ' ') : ¬IsCut w i := by
  intro hcut
  obtain ⟨a, n, d, he, -⟩ := hcut.drop_eq
  rw [h] at he
  exact hc (List.cons.inj he).1

/-- A cut rules out the three positions behind it. -/
theorem cutsFrom_of_isCut {w : Text} {i : Nat} (h : IsCut w i) :
    cutsFrom w i = i :: cutsFrom w (i + 4) := by
  obtain ⟨a, n, d, h0, ha, hn, hd⟩ := h.drop_eq
  have h1 := drop_succ_of_drop h0
  have h2 := drop_succ_of_drop h1
  have h3 := drop_succ_of_drop h2
  have hi : i < w.length := by
    by_contra hle
    rw [List.drop_eq_nil_of_le (by omega)] at h0
    exact absurd h0 (by simp)
  rw [cutsFrom_cons hi, if_pos h, cutsFrom_of_not_isCut (not_isCut_of_ne h1 ha),
    cutsFrom_of_not_isCut (not_isCut_of_ne h2 hn), cutsFrom_of_not_isCut (not_isCut_of_ne h3 hd)]

/-- Induction over the positions behind a given one, in the steps of the scan. -/
theorem cutsFrom_induction {w : Text} {motive : Nat → List Nat → Prop}
    (stop : ∀ i, w.length ≤ i → motive i [])
    (cut : ∀ i, IsCut w i → motive (i + 4) (cutsFrom w (i + 4)) →
      motive i (i :: cutsFrom w (i + 4)))
    (step : ∀ i, i < w.length → ¬IsCut w i → motive (i + 1) (cutsFrom w (i + 1)) →
      motive i (cutsFrom w (i + 1)))
    (i : Nat) : motive i (cutsFrom w i) := by
  by_cases hi : i < w.length
  · by_cases hcut : IsCut w i
    · rw [cutsFrom_of_isCut hcut]
      exact cut i hcut (cutsFrom_induction stop cut step (i + 4))
    · rw [cutsFrom_of_not_isCut hcut]
      exact step i hi hcut (cutsFrom_induction stop cut step (i + 1))
  · rw [cutsFrom_of_length_le (Nat.le_of_not_lt hi)]
    exact stop i (Nat.le_of_not_lt hi)
termination_by w.length - i

/-! ### Segments -/

theorem segments_ne_nil (w : Text) (i : Nat) (ps : List Nat) : segments w i ps ≠ [] := by
  cases ps <;> exact List.cons_ne_nil _ _

theorem length_segments (w : Text) (i : Nat) (ps : List Nat) :
    (segments w i ps).length = ps.length + 1 := by
  induction ps generalizing i with
  | nil => rfl
  | cons p ps ih => rw [segments, List.length_cons, ih, List.length_cons]

/-- A character in front of all positions belongs to the first segment. -/
theorem segments_cons {w : Text} {i : Nat} {c : CodePoint} (h : w.drop i = c :: w.drop (i + 1))
    {ps : List Nat} (hps : ∀ p ∈ ps, i + 1 ≤ p) :
    segments w i ps = consFirst c (segments w (i + 1) ps) := by
  cases ps with
  | nil => rw [segments, segments, consFirst, h]
  | cons p ps =>
      have hle : i + 1 ≤ p := hps p List.mem_cons_self
      have hp : p - i = p - (i + 1) + 1 := by omega
      rw [segments, segments, consFirst, h, hp, List.take_succ_cons]

theorem putBack_consFirst (w : Text) (c : CodePoint) {ss : List Text} (hne : ss ≠ [])
    (ps : List Nat) :
    putBack w (consFirst c ss) ps = c :: putBack w ss ps := by
  obtain ⟨s, rest, rfl⟩ := List.exists_cons_of_ne_nil hne
  cases ps with
  | nil => rfl
  | cons p ps => simp [putBack, consFirst]

/-- Segments and what was taken out between them are the whole text. -/
theorem putBack_segments (w : Text) (i : Nat) :
    putBack w (segments w i (cutsFrom w i)) (cutsFrom w i) = w.drop i := by
  refine cutsFrom_induction (motive := fun i ps => putBack w (segments w i ps) ps = w.drop i)
    ?_ ?_ ?_ i
  · intro i hi
    simp [putBack, segments]
  · intro i hcut ih
    rw [segments, putBack, ih, Nat.sub_self, List.take_zero, List.nil_append, ← List.drop_drop,
      List.take_append_drop]
  · intro i hi hcut ih
    rw [segments_cons (List.drop_eq_getElem_cons hi) fun p hp => mem_cutsFrom hp,
      putBack_consFirst w _ (segments_ne_nil w _ _), ih, ← List.drop_eq_getElem_cons hi]

/-- The pieces that the scan leaves are the segments. -/
theorem cut_eq_segments (w : Text) (i : Nat) :
    cut (scanAt w i) 0 (w.drop i) = segments w i (cutsFrom w i) := by
  refine cutsFrom_induction (motive := fun i ps => cut (scanAt w i) 0 (w.drop i) = segments w i ps)
    ?_ ?_ ?_ i
  · intro i hi
    rw [segments, List.drop_eq_nil_of_le hi, cut_nil]
  · intro i hcut ih
    obtain ⟨a, n, d, h0, -⟩ := hcut.drop_eq
    have h1 := drop_succ_of_drop h0
    have h2 := drop_succ_of_drop h1
    have h3 := drop_succ_of_drop h2
    rw [segments, ← ih, Nat.sub_self, List.take_zero, h0, cut_cons,
      if_pos ((isCut_iff h0).mp hcut), cut_skip, cut_skip, cut_skip, step_scanAt h0,
      step_scanAt h1, step_scanAt h2, step_scanAt h3]
  · intro i hi hcut ih
    have h0 := List.drop_eq_getElem_cons hi
    rw [segments_cons h0 fun p hp => mem_cutsFrom hp, ← ih, ← step_scanAt h0]
    rw [h0, cut_cons, if_neg fun h => hcut ((isCut_iff h0).mpr h)]

/-- **Where expressions are cut.** There is one clause more than there are positions at which the
text is cut. The clauses are the segments between these positions, trimmed, and nothing but the
connectives there is lost. -/
theorem clauses_eq_segments (w : Text) :
    (clauses w).length = (cutPositions w).length + 1 ∧
      clauses w = (segments w 0 (cutPositions w)).map Text.strip ∧
      putBack w (segments w 0 (cutPositions w)) (cutPositions w) = w := by
  have hfrom : cutsFrom w 0 = cutPositions w := by
    rw [cutsFrom, cutPositions, List.range_eq_range', Nat.sub_zero]
  have hclauses : clauses w = (segments w 0 (cutPositions w)).map Text.strip := by
    rw [clauses, ← scanAt_zero w, ← hfrom, ← cut_eq_segments, List.drop_zero]
  refine ⟨?_, hclauses, ?_⟩
  · rw [hclauses, List.length_map, length_segments]
  · rw [← hfrom, putBack_segments, List.drop_zero]

example : cutPositions "a = 'x and y' and b AND and c and".toText = [13, 19, 23, 29] := by
  decide

end TrackerQuery.Where
