import TrackerQuery.Proofs.Where.Clause

/-!
# TrackerQuery.Proofs.Where.Atomic

Clauses are **atomic**: cutting a clause once more leaves it as it is.

A text is cut from its start, one connective after another (`CutsInto`). A piece leaves no quote
open where a connective follows, and what stands behind the connective is cut as if it stood
alone. So no piece has an end of a piece in it when it is scanned by itself.

Trimming keeps that. It takes blanks only, and a blank is no quote and no backslash, so the scan
is in the same state behind it; and a connective that a blank followed still ends there when
nothing follows it (`noCut_of_blanks`).

Main statement: `clauses_atomic`.
-/

namespace TrackerQuery.Where

/-! ### One connective after another -/

/-- How a text is cut into pieces, from its start. -/
inductive CutsInto : Text → List Text → Prop where
  /-- No piece ends in the text. -/
  | whole {t : Text} (h : NoCut Scan.start t []) : CutsInto t [t]
  /-- The first piece leaves no quote open, and the others are those of the text behind the
  connective. -/
  | connective {p b : Text} {x n d : CodePoint} {ps : List Text} (hp : NoCut Scan.start p [])
      (ho : (Scan.start.after p).opened = none)
      (hand : startsWithAnd (' ' :: x :: n :: d :: b) = true) (hb : CutsInto b ps) :
      CutsInto (p ++ .char ' ' :: x :: n :: d :: b) (p :: ps)

/-- Either no piece ends in a text, or there is a first place where one ends. -/
theorem noCut_or_connective (s : Scan) (t : Text) :
    NoCut s t [] ∨ ∃ p x n d b, t = p ++ .char ' ' :: x :: n :: d :: b ∧ NoCut s p [] ∧
      (s.after p).opened = none ∧ startsWithAnd (' ' :: x :: n :: d :: b) = true := by
  induction t generalizing s with
  | nil => exact Or.inl trivial
  | cons c t ih =>
      by_cases hc : (s.step c).opened = none ∧ startsWithAnd (c :: t) = true
      · obtain ⟨x, n, d, b, he, -⟩ := eq_of_startsWithAnd hc.2
        obtain ⟨rfl, rfl⟩ := List.cons.inj he
        refine Or.inr ⟨[], x, n, d, b, rfl, trivial, ?_, hc.2⟩
        rw [Scan.after_nil, ← hc.1]
        exact (Scan.step_opened_of_not_quote (by decide) s).symm
      · have hhere : (s.step c).opened = none → startsWithAnd (c :: t) = false := by
          intro ho
          simpa using fun ha => hc ⟨ho, ha⟩
        cases ih (s.step c) with
        | inl h =>
            refine Or.inl ⟨?_, h⟩
            rw [List.append_nil]
            exact hhere
        | inr h =>
            obtain ⟨p, x, n, d, b, rfl, hp, ho, hand⟩ := h
            refine Or.inr ⟨c :: p, x, n, d, b, rfl, ⟨?_, hp⟩, ho, hand⟩
            -- the connective behind the piece starts with a space, which decides nothing here
            rw [List.append_nil, ← startsWithAnd_append_space (List.cons_ne_nil c p)]
            exact hhere

theorem isFresh_behind_connective {x n d : CodePoint} {b : Text}
    (hand : startsWithAnd (' ' :: x :: n :: d :: b) = true) :
    Scan.IsFresh ⟨none, some d⟩ := by
  refine ⟨rfl, ?_⟩
  obtain ⟨x', n', d', b', he, -, -, hd⟩ := eq_of_startsWithAnd hand
  simp only [List.cons.injEq, true_and] at he
  obtain ⟨rfl, rfl, rfl, rfl⟩ := he
  cases hd with
  | inl h => simp [h]
  | inr h => simp [h]

/-- The scan cuts a text one connective after another. -/
theorem cutsInto_cut (w : Text) : CutsInto w (cut Scan.start 0 w) := by
  cases noCut_or_connective Scan.start w with
  | inl h =>
      rw [cut_of_noCut h]
      exact .whole h
  | inr h =>
      obtain ⟨p, x, n, d, b, happ, hp, ho, hand⟩ := h
      have hlt : b.length < w.length := by
        rw [happ]
        simp only [List.length_append, List.length_cons]
        omega
      rw [happ, cut_append_and (Nat.zero_le _) ho hand, cut_of_noCut hp,
        cut_of_isFresh (isFresh_behind_connective hand)]
      exact .connective hp ho hand (cutsInto_cut b)
termination_by w.length

/-! ### What holds of every piece -/

section CutsInto

variable {w : Text} {ps : List Text}

theorem CutsInto.ne_nil (h : CutsInto w ps) : ps ≠ [] := by
  cases h <;> exact List.cons_ne_nil _ _

/-- No piece ends in a piece. -/
theorem CutsInto.noCut (h : CutsInto w ps) : ∀ p ∈ ps, NoCut Scan.start p [] := by
  induction h with
  | whole h => simpa using h
  | connective hp _ _ _ ih => exact List.forall_mem_cons.mpr ⟨hp, ih⟩

/-- A piece that another one follows leaves no quote open. -/
theorem CutsInto.closed (h : CutsInto w ps) :
    ∀ p ∈ ps.dropLast, (Scan.start.after p).opened = none := by
  induction h with
  | whole h => simp
  | connective _ ho _ hb ih =>
      rw [List.dropLast_cons_of_ne_nil hb.ne_nil]
      exact List.forall_mem_cons.mpr ⟨ho, ih⟩

/-- The last piece leaves open what the text leaves open. -/
theorem CutsInto.opened_getLast? (h : CutsInto w ps) :
    ∀ p ∈ ps.getLast?, (Scan.start.after p).opened = (Scan.start.after w).opened := by
  induction h with
  | whole h => simp
  | @connective p b x n d ps _ ho hand hb ih =>
      have hbehind : (Scan.start.after (p ++ .char ' ' :: x :: n :: d :: b)).opened =
          (Scan.start.after b).opened := by
        simp only [Scan.after_append, Scan.after_cons, step_connective ho hand]
        exact (isFresh_behind_connective hand).after_opened b
      obtain ⟨q, qs, rfl⟩ := List.exists_cons_of_ne_nil hb.ne_nil
      rw [hbehind, List.getLast?_cons_cons]
      exact ih

end CutsInto

/-! ### Trimming -/

theorem not_quote_of_blank {c : CodePoint} (hc : Text.isBlank c = true) :
    Literal.isQuote c = false := by
  by_contra hq
  simp only [Literal.isQuote, Bool.not_eq_false, Bool.or_eq_true, beq_iff_eq] at hq
  cases hq with
  | inl h => exact absurd (h ▸ hc) (by decide)
  | inr h => exact absurd (h ▸ hc) (by decide)

section Blanks

variable {front back : Text} (hfront : ∀ c ∈ front, Text.isBlank c = true)
  (hback : ∀ c ∈ back, Text.isBlank c = true)
include hfront

/-- Behind blanks a text is scanned as if it stood alone. -/
theorem isFresh_after_blanks : (Scan.start.after front).IsFresh := by
  refine ⟨?_, ?_⟩
  · rw [Scan.after_opened_of_not_quote fun c hc => not_quote_of_blank (hfront c hc)]
    rfl
  · intro hlast
    cases Scan.mem_of_after_last hlast with
    | inl h => exact absurd (hfront _ h) (by decide)
    | inr h => exact absurd h (by simp [Scan.start])

include hback

theorem noCut_of_blanks {t : Text} (h : NoCut Scan.start (front ++ t ++ back) []) :
    NoCut Scan.start t [] := by
  rw [List.append_assoc, noCut_append, noCut_append] at h
  have ht := (noCut_congr (isFresh_after_blanks hfront).step_eq).mp h.2.1
  rw [List.append_nil] at ht
  cases back with
  | nil => exact ht
  | cons c back => exact (noCut_blank_iff (hback c List.mem_cons_self)).mp ht

theorem opened_of_blanks (t : Text) :
    (Scan.start.after (front ++ t ++ back)).opened = (Scan.start.after t).opened := by
  rw [Scan.after_append,
    Scan.after_opened_of_not_quote fun c hc => not_quote_of_blank (hback c hc), Scan.after_append]
  exact (isFresh_after_blanks hfront).after_opened t

end Blanks

theorem noCut_strip {p : Text} (h : NoCut Scan.start p []) :
    NoCut Scan.start (Text.strip p) [] := by
  obtain ⟨front, back, happ, hfront, hback⟩ := Text.exists_append_strip p
  rw [happ] at h
  exact noCut_of_blanks hfront hback h

theorem opened_strip (p : Text) :
    (Scan.start.after (Text.strip p)).opened = (Scan.start.after p).opened := by
  obtain ⟨front, back, happ, hfront, hback⟩ := Text.exists_append_strip p
  have hopened := opened_of_blanks hfront hback (Text.strip p)
  rw [← happ] at hopened
  exact hopened.symm

/-! ### Clauses -/

/-- **Clauses are atomic.** A clause is trimmed and is its own only clause. Each one but the last
leaves no quote open, and the last one leaves open what the whole expression does. -/
theorem clauses_atomic (w : Text) :
    (∀ c ∈ clauses w, Text.IsTrimmed c ∧ clauses c = [c]) ∧
      (∀ c ∈ (clauses w).dropLast, (Scan.start.after c).opened = none) ∧
      ∀ c ∈ (clauses w).getLast?, (Scan.start.after c).opened = (Scan.start.after w).opened := by
  have hcut := cutsInto_cut w
  refine ⟨?_, ?_, ?_⟩
  · intro c hc
    have htrimmed := isTrimmed_of_mem_clauses hc
    obtain ⟨p, hp, rfl⟩ := List.mem_map.mp hc
    exact ⟨htrimmed, clauses_of_noCut htrimmed (noCut_strip (hcut.noCut p hp))⟩
  · intro c hc
    rw [clauses, ← List.map_dropLast] at hc
    obtain ⟨p, hp, rfl⟩ := List.mem_map.mp hc
    rw [opened_strip, hcut.closed p hp]
  · intro c hc
    rw [clauses, List.getLast?_map] at hc
    obtain ⟨p, hp, rfl⟩ := Option.map_eq_some_iff.mp hc
    rw [opened_strip, hcut.opened_getLast? p hp]

/-- A quoted word *and*, an escaped quote where a clause starts, a line feed at the end of it, and a
quote that stays open in front of a last *and*. -/
theorem clauses_atomic_unbalanced :
    let w := "\tA eq 'x and y' AND \\'B eq 1\n and C eq \"it's and ".toText
    let first := "A eq 'x and y'".toText
    let second := "\\'B eq 1".toText
    let last := "C eq \"it's and".toText
    clauses w = [first, second, last] ∧ (Text.IsTrimmed second ∧ clauses second = [second]) ∧
      (Scan.start.after second).opened = none ∧
      (Text.IsTrimmed last ∧ clauses last = [last]) ∧
      (Scan.start.after last).opened = (Scan.start.after w).opened ∧
      (Scan.start.after w).opened = some (.char '"') := by
  intro w first second last
  have hclauses : clauses w = [first, second, last] := by decide
  obtain ⟨hone, hclosed, hlast⟩ := clauses_atomic w
  rw [hclauses] at hone hclosed hlast
  exact ⟨hclauses, hone second (by simp), hclosed second (by simp), hone last (by simp),
    hlast last (by simp), by decide⟩

end TrackerQuery.Where
