import Mathlib.Data.List.Infix
import TrackerQuery.Proofs.Literal.Quoted
import TrackerQuery.Where.Clause

/-!
# TrackerQuery.Proofs.Where.Clause

How a where expression is **cut into clauses**.

The scan is deterministic and looks behind by one character only, so all states
without an open quote that are not behind a backslash go on alike (`Scan.IsFresh`).
From this the main statement follows: where no quote is open behind `a`, the clauses
of `a`, *and* and `b` are those of `a` and those of `b` (`clauses_append`). The
connective is looked up ahead of the scan, but never across a blank, so what
follows a blank decides nothing about the text in front of it
(`startsWithAnd_append_blank`).

`NoCut s u v` says that no piece ends inside `u` when `u` is scanned from `s` and `v`
follows, and `IsWhole` that a text is a single clause that leaves no quote open. Texts
joined by *and* have at most as many pieces as there are texts, and fewer if one of
them leaves a quote open (`length_cut_join_le`, `cut_join_of_opened`).
-/

namespace TrackerQuery.Where

/-! ### Quote state -/

namespace Scan

/-- The states in which a text can be scanned as if it stood alone: no quote is open and the last
character was no backslash. -/
def IsFresh (s : Scan) : Prop :=
  s.opened = none ∧ s.last ≠ some (.char '\\')

theorem isFresh_start : start.IsFresh :=
  ⟨rfl, by decide⟩

@[simp] theorem after_nil (s : Scan) : s.after [] = s := rfl

@[simp] theorem after_cons (s : Scan) (c : CodePoint) (t : Text) :
    s.after (c :: t) = (s.step c).after t := rfl

@[simp] theorem after_append (s : Scan) (t u : Text) :
    s.after (t ++ u) = (s.after t).after u :=
  List.foldl_append

/-- A step depends on the open quote, and on whether the last character was a backslash. -/
theorem step_congr {s s' : Scan} (ho : s.opened = s'.opened)
    (hl : s.last = some (.char '\\') ↔ s'.last = some (.char '\\')) (c : CodePoint) :
    s.step c = s'.step c := by
  have hb : (s.last != some (.char '\\')) = (s'.last != some (.char '\\')) := by
    rw [Bool.eq_iff_iff, bne_iff_ne, bne_iff_ne, ne_eq, ne_eq, hl]
  rw [step, step, hb, ho]

theorem IsFresh.step_eq {s : Scan} (h : s.IsFresh) (c : CodePoint) : s.step c = start.step c :=
  step_congr h.1 (iff_of_false h.2 (by decide)) c

theorem IsFresh.after_opened {s : Scan} (h : s.IsFresh) (t : Text) :
    (s.after t).opened = (start.after t).opened := by
  cases t with
  | nil => exact h.1
  | cons c t => rw [after_cons, after_cons, h.step_eq]

/-- A character that is no quote leaves the open quote as it is. -/
theorem step_opened_of_not_quote {c : CodePoint} (hc : Literal.isQuote c = false) (s : Scan) :
    (s.step c).opened = s.opened := by
  simp [step, hc]

theorem after_opened_of_not_quote {t : Text} (h : ∀ c ∈ t, Literal.isQuote c = false) (s : Scan) :
    (s.after t).opened = s.opened := by
  induction t generalizing s with
  | nil => rfl
  | cons c t ih =>
      rw [after_cons, ih (fun x hx => h x (List.mem_cons_of_mem _ hx)),
        step_opened_of_not_quote (h c List.mem_cons_self)]

theorem step_last (s : Scan) (c : CodePoint) : (s.step c).last = some c := rfl

theorem after_concat_last (s : Scan) (t : Text) (c : CodePoint) :
    (s.after (t ++ [c])).last = some c := by
  rw [after_append, after_cons, after_nil, step_last]

/-- A quote stays open as long as it does not come again. -/
theorem after_opened_of_ne {s : Scan} {q : CodePoint} (ho : s.opened = some q) {t : Text}
    (h : ∀ c ∈ t, c ≠ q) : (s.after t).opened = some q := by
  induction t generalizing s with
  | nil => exact ho
  | cons c t ih =>
      refine ih ?_ fun x hx => h x (List.mem_cons_of_mem _ hx)
      simp only [step, ho, toggle, if_neg (h c List.mem_cons_self), ite_self]

theorem mem_of_after_last {s : Scan} {t : Text} {c : CodePoint} (h : (s.after t).last = some c) :
    c ∈ t ∨ s.last = some c := by
  induction t generalizing s with
  | nil => exact Or.inr h
  | cons d t ih =>
      rcases ih h with hc | hc
      · exact Or.inl (List.mem_cons_of_mem _ hc)
      · exact Or.inl (Option.some.inj hc ▸ List.mem_cons_self)

/-- Text without quotes that ends in no backslash leads from a fresh state to a fresh state. -/
theorem IsFresh.after_concat {s : Scan} (h : s.IsFresh) {t : Text} {c : CodePoint}
    (ht : ∀ x ∈ t, Literal.isQuote x = false) (hc : Literal.isQuote c = false) (hb : c ≠ '\\') :
    (s.after (t ++ [c])).IsFresh := by
  refine ⟨?_, ?_⟩
  · rw [after_append, after_cons, after_nil, step_opened_of_not_quote hc,
      after_opened_of_not_quote ht, h.1]
  · rw [after_concat_last]
    exact fun e => hb (Option.some.inj e)

end Scan

/-! ### The connective -/

theorem startsWithAnd_of_ne {c : CodePoint} (hc : c ≠ ' ') (t : Text) :
    startsWithAnd (c :: t) = false := by
  unfold startsWithAnd
  split
  · next h => exact absurd (List.cons.inj h).1 hc
  · rfl

theorem startsWithAnd_space_of_ne {c : CodePoint} (hc : c ≠ 'a') (hc' : c ≠ 'A') (t : Text) :
    startsWithAnd (' ' :: c :: t) = false := by
  rcases t with _ | ⟨n, _ | ⟨d, t⟩⟩ <;> simp [startsWithAnd, hc, hc']

/-- What follows a blank has no part in a connective that starts in front of the blank. -/
theorem startsWithAnd_append_blank {b : CodePoint} (hb : Text.isBlank b = true) {t : Text}
    (ht : t ≠ [])
    (u : Text) : startsWithAnd (t ++ b :: u) = startsWithAnd t := by
  obtain ⟨c, t, rfl⟩ := List.exists_cons_of_ne_nil ht
  by_cases hc : c = ' '
  · subst hc
    -- no letter of the connective is blank
    have hletter : ∀ l, Text.isBlank l = false → b ≠ l := by
      rintro l hl rfl
      exact absurd (hb.symm.trans hl) (by simp)
    have ha := hletter 'a' (by decide)
    have ha' := hletter 'A' (by decide)
    have hn := hletter 'n' (by decide)
    have hn' := hletter 'N' (by decide)
    have hd := hletter 'd' (by decide)
    have hd' := hletter 'D' (by decide)
    match t with
    | [] => rcases u with _ | ⟨x, _ | ⟨y, u⟩⟩ <;> simp [startsWithAnd, ha, ha']
    | [a] => cases u <;> simp [startsWithAnd, hn, hn']
    | [a, n] => simp [startsWithAnd, hd, hd']
    | [a, n, d] => simp [startsWithAnd, atWordEnd, hb]
    | a :: n :: d :: e :: rest => simp [startsWithAnd, atWordEnd]
  · rw [List.cons_append, startsWithAnd_of_ne hc, startsWithAnd_of_ne hc]

/-- What follows a space has no part in a connective that starts in front of the space. -/
theorem startsWithAnd_append_space {t : Text} (ht : t ≠ []) (u : Text) :
    startsWithAnd (t ++ .char ' ' :: u) = startsWithAnd t :=
  startsWithAnd_append_blank (by decide) ht u

theorem eq_of_startsWithAnd {t : Text} (h : startsWithAnd t = true) :
    ∃ a n d rest, t = .char ' ' :: a :: n :: d :: rest ∧ (a = 'a' ∨ a = 'A') ∧ (n = 'n' ∨ n = 'N') ∧
      (d = 'd' ∨ d = 'D') := by
  unfold startsWithAnd at h
  split at h
  · next a n d rest =>
      simp only [Bool.and_eq_true, Bool.or_eq_true, beq_iff_eq] at h
      exact ⟨a, n, d, rest, rfl, h.1.1.1, h.1.1.2, h.1.2⟩
  · exact absurd h (by simp)

/-- A connective has no quote. -/
theorem not_quote_of_startsWithAnd {x n d : CodePoint} {b : Text}
    (h : startsWithAnd (' ' :: x :: n :: d :: b) = true) :
    Literal.isQuote x = false ∧ Literal.isQuote n = false ∧ Literal.isQuote d = false := by
  obtain ⟨x', n', d', b', he, hx, hn, hd⟩ := eq_of_startsWithAnd h
  simp only [List.cons.injEq, true_and] at he
  obtain ⟨rfl, rfl, rfl, rfl⟩ := he
  refine ⟨?_, ?_, ?_⟩
  · rcases hx with rfl | rfl <;> decide
  · rcases hn with rfl | rfl <;> decide
  · rcases hd with rfl | rfl <;> decide

/-- Behind a connective outside quotes no quote is open. -/
theorem step_connective {s : Scan} {x n d : CodePoint} {b : Text} (hs : s.opened = none)
    (hand : startsWithAnd (' ' :: x :: n :: d :: b) = true) :
    (((s.step ' ').step x).step n).step d = ⟨none, some d⟩ := by
  obtain ⟨hx, hn, hd⟩ := not_quote_of_startsWithAnd hand
  simp [Scan.step, hs, show Literal.isQuote ' ' = false from by decide, hx, hn, hd]

/-! ### Pieces -/

@[simp] theorem cut_nil (s : Scan) (k : Nat) : cut s k [] = [[]] := by
  rw [cut]

@[simp] theorem cut_skip (s : Scan) (k : Nat) (c : CodePoint) (t : Text) :
    cut s (k + 1) (c :: t) = cut (s.step c) k t := by
  rw [cut]

theorem cut_cons (s : Scan) (c : CodePoint) (t : Text) :
    cut s 0 (c :: t) =
      if (s.step c).opened = none ∧ startsWithAnd (c :: t) = true then [] :: cut (s.step c) 3 t
      else consFirst c (cut (s.step c) 0 t) := by
  rw [cut]

theorem cut_ne_nil (s : Scan) (k : Nat) (t : Text) : cut s k t ≠ [] := by
  induction t generalizing s k with
  | nil => simp [cut]
  | cons c t ih =>
      cases k with
      | succ n => exact ih _ _
      | zero =>
          rw [cut_cons]
          split
          · simp
          · cases hcut : cut (s.step c) 0 t <;> simp [consFirst]

theorem consFirst_append {ps : List Text} (h : ps ≠ []) (c : CodePoint) (qs : List Text) :
    consFirst c (ps ++ qs) = consFirst c ps ++ qs := by
  cases ps with
  | nil => exact absurd rfl h
  | cons p ps => rfl

theorem consFirst_eq_modifyHead {ps : List Text} (h : ps ≠ []) (c : CodePoint) :
    consFirst c ps = ps.modifyHead (c :: ·) := by
  cases ps with
  | nil => exact absurd rfl h
  | cons p ps => rfl

/-- Every character of a piece is one of the text. -/
theorem mem_of_mem_cut {s : Scan} {k : Nat} {t p : Text} {x : CodePoint} (hp : p ∈ cut s k t)
    (hx : x ∈ p) : x ∈ t := by
  induction t generalizing s k p with
  | nil => simp_all [cut]
  | cons c t ih =>
      cases k with
      | succ n => exact List.mem_cons_of_mem _ (ih hp hx)
      | zero =>
          rw [cut_cons] at hp
          split at hp
          · rcases List.mem_cons.mp hp with rfl | hp
            · exact absurd hx List.not_mem_nil
            · exact List.mem_cons_of_mem _ (ih hp hx)
          · cases hcut : cut (s.step c) 0 t with
            | nil => exact absurd hcut (cut_ne_nil _ _ _)
            | cons q qs =>
                rw [hcut, consFirst] at hp
                rcases List.mem_cons.mp hp with rfl | hp
                · rcases List.mem_cons.mp hx with rfl | hx
                  · exact List.mem_cons_self
                  · exact List.mem_cons_of_mem _ (ih (hcut ▸ List.mem_cons_self) hx)
                · exact List.mem_cons_of_mem _ (ih (hcut ▸ List.mem_cons_of_mem _ hp) hx)

theorem cut_of_isFresh {s : Scan} (h : s.IsFresh) (t : Text) : cut s 0 t = cut Scan.start 0 t := by
  cases t with
  | nil => rfl
  | cons c t => rw [cut_cons, cut_cons, h.step_eq]

/-- A connective where no quote is open separates the pieces of what is in front of it from those
of what follows. The skipped characters, if any, lie in front. -/
theorem cut_append_and {s : Scan} {k : Nat} {a b : Text} {x n d : CodePoint} (hk : k ≤ a.length)
    (ha : (s.after a).opened = none) (hand : startsWithAnd (' ' :: x :: n :: d :: b) = true) :
    cut s k (a ++ .char ' ' :: x :: n :: d :: b) = cut s k a ++ cut ⟨none, some d⟩ 0 b := by
  induction a generalizing s k with
  | nil =>
      obtain rfl : k = 0 := by simpa using hk
      have hs : s.opened = none := ha
      have ho : (s.step ' ').opened = none := by
        rw [Scan.step_opened_of_not_quote (by decide), hs]
      rw [List.nil_append, cut_cons, if_pos ⟨ho, hand⟩, cut_skip, cut_skip, cut_skip,
        step_connective hs hand, cut_nil, List.singleton_append]
  | cons c a ih =>
      cases k with
      | succ m => exact ih (by simpa using hk) ha
      | zero =>
          -- what is looked up here never reaches beyond the space of the connective
          have hsame : startsWithAnd (c :: (a ++ .char ' ' :: x :: n :: d :: b)) =
              startsWithAnd (c :: a) :=
            startsWithAnd_append_space (List.cons_ne_nil c a) _
          rw [List.cons_append, cut_cons, cut_cons, hsame]
          split
          · next h =>
              -- a connective inside `a` has its letters there, so skipping them stays inside `a`
              obtain ⟨y, n', d', rest, he, -⟩ := eq_of_startsWithAnd h.2
              rw [ih (by rw [(List.cons.inj he).2]; simp) ha, List.cons_append]
          · rw [ih (Nat.zero_le _) ha, consFirst_append (cut_ne_nil _ _ _)]

/-! ### Clauses -/

theorem isTrimmed_of_mem_clauses {w c : Text} (h : c ∈ clauses w) : Text.IsTrimmed c := by
  obtain ⟨p, -, rfl⟩ := List.mem_map.mp h
  exact Text.isTrimmed_strip p

theorem mem_of_mem_clauses {w c : Text} {x : CodePoint} (h : c ∈ clauses w) (hx : x ∈ c) :
    x ∈ w := by
  obtain ⟨p, hp, rfl⟩ := List.mem_map.mp h
  exact mem_of_mem_cut hp (Text.mem_of_mem_strip hx)

theorem clauses_ne_nil (w : Text) : clauses w ≠ [] := by
  simpa [clauses] using cut_ne_nil _ _ _

/-- A space in front of a text that does not go on with the word *and* changes no clause. -/
theorem clauses_of_space {b : Text} (hb : startsWithAnd (' ' :: b) = false) :
    (cut ⟨none, some (.char 'd')⟩ 0 (' ' :: b)).map Text.strip = clauses b := by
  have hf : (Scan.step ⟨none, some (.char 'd')⟩ ' ').IsFresh := ⟨by decide, by decide⟩
  rw [cut_cons, if_neg (by simp [hb]), cut_of_isFresh hf, clauses]
  cases hcut : cut Scan.start 0 b with
  | nil => exact absurd hcut (cut_ne_nil _ _ _)
  | cons p ps => rw [consFirst, List.map_cons, List.map_cons, Text.strip_cons (by decide)]

/-- **Composition.** The clauses of two texts with *and* between them are those of the first and
those of the second, unless the first leaves a quote open or the second starts with another
*and*. -/
theorem clauses_append {a b : Text} (ha : (Scan.start.after a).opened = none)
    (hb : startsWithAnd (' ' :: b) = false) :
    clauses (a ++ .char ' ' :: .char 'a' :: .char 'n' :: .char 'd' :: .char ' ' :: b) =
      clauses a ++ clauses b := by
  have hand : startsWithAnd (' ' :: 'a' :: 'n' :: 'd' :: ' ' :: b) = true := rfl
  rw [clauses, cut_append_and (Nat.zero_le _) ha hand, List.map_append, clauses_of_space hb]
  rfl

/-! ### Text in which no piece ends -/

/-- No piece ends inside `u`, scanned from `s`, when `v` follows it. -/
def NoCut (s : Scan) : Text → Text → Prop
  | [], _ => True
  | c :: u, v =>
    ((s.step c).opened = none → startsWithAnd (c :: u ++ v) = false) ∧ NoCut (s.step c) u v

theorem noCut_append {s : Scan} {u v w : Text} :
    NoCut s (u ++ v) w ↔ NoCut s u (v ++ w) ∧ NoCut (s.after u) v w := by
  induction u generalizing s with
  | nil => simp [NoCut]
  | cons c u ih => simp only [List.cons_append, NoCut, ih, List.append_assoc, Scan.after_cons,
      and_assoc]

/-- A connective starts with a space. -/
theorem noCut_of_no_space {u : Text} (h : ∀ c ∈ u, c ≠ ' ') (s : Scan) (v : Text) :
    NoCut s u v := by
  induction u generalizing s with
  | nil => trivial
  | cons c u ih =>
      exact ⟨fun _ => startsWithAnd_of_ne (h c List.mem_cons_self) _,
        ih (fun x hx => h x (List.mem_cons_of_mem _ hx)) _⟩

/-- What follows a blank decides nothing about the text in front of it. -/
theorem noCut_blank_iff {b : CodePoint} (hb : Text.isBlank b = true) {s : Scan} {u v : Text} :
    NoCut s u (b :: v) ↔ NoCut s u [] := by
  induction u generalizing s with
  | nil => rfl
  | cons c u ih =>
      rw [NoCut, NoCut, startsWithAnd_append_blank hb (List.cons_ne_nil c u), List.append_nil, ih]

theorem noCut_space_iff {s : Scan} {u v : Text} : NoCut s u (' ' :: v) ↔ NoCut s u [] :=
  noCut_blank_iff (by decide)

theorem noCut_congr {s s' : Scan} (hs : ∀ c, s.step c = s'.step c) {u v : Text} :
    NoCut s u v ↔ NoCut s' u v := by
  cases u with
  | nil => rfl
  | cons c u => rw [NoCut, NoCut, hs]

theorem cut_append_of_noCut {s : Scan} {u v : Text} (h : NoCut s u v) :
    cut s 0 (u ++ v) = (cut (s.after u) 0 v).modifyHead (u ++ ·) := by
  induction u generalizing s with
  | nil =>
      cases hcut : cut (s.after []) 0 v <;> simp_all
  | cons c u ih =>
      have hc : ¬((s.step c).opened = none ∧ startsWithAnd (c :: (u ++ v)) = true) := by
        rintro ⟨ho, ha⟩
        rw [← List.cons_append, h.1 ho] at ha
        exact absurd ha (by simp)
      rw [List.cons_append, cut_cons, if_neg hc, ih h.2,
        consFirst_eq_modifyHead (by simpa using cut_ne_nil _ _ _), List.modifyHead_modifyHead,
        Scan.after_cons]
      rfl

theorem cut_of_noCut {s : Scan} {u : Text} (h : NoCut s u []) : cut s 0 u = [u] := by
  have hcut := cut_append_of_noCut h
  rw [List.append_nil, cut_nil, List.modifyHead_cons, List.append_nil] at hcut
  exact hcut

/-- Text without quotes has no end of a piece while a quote is open. -/
theorem noCut_of_opened {s : Scan} (ho : s.opened ≠ none) {u : Text}
    (hu : ∀ c ∈ u, Literal.isQuote c = false) (v : Text) : NoCut s u v := by
  induction u generalizing s with
  | nil => trivial
  | cons c u ih =>
      have hstep : (s.step c).opened ≠ none := by
        rwa [Scan.step_opened_of_not_quote (hu c List.mem_cons_self)]
      exact ⟨fun h => absurd h hstep, ih hstep fun x hx => hu x (List.mem_cons_of_mem _ hx)⟩

/-- Where a piece ends inside a text, the connective stands behind that piece. -/
theorem cut_of_not_noCut {s : Scan} {u v : Text} (h : ¬NoCut s u v) :
    ∃ p r ps, u = p ++ r ∧ r ≠ [] ∧ startsWithAnd (r ++ v) = true ∧ ps ≠ [] ∧
      cut s 0 (u ++ v) = p :: ps := by
  induction u generalizing s with
  | nil => exact absurd trivial h
  | cons c u ih =>
      rw [List.cons_append, cut_cons]
      -- the first place where a piece ends is here, or it is found behind the character
      split
      · next hc => exact ⟨[], c :: u, _, rfl, List.cons_ne_nil c u, hc.2, cut_ne_nil _ _ _, rfl⟩
      · next hc =>
          have hu : ¬NoCut (s.step c) u v := by
            intro hu
            refine h ⟨fun ho => ?_, hu⟩
            rw [List.cons_append]
            simpa using fun ha => hc ⟨ho, ha⟩
          obtain ⟨p, r, ps, happ, hne, hand, hps, hcut⟩ := ih hu
          refine ⟨c :: p, r, ps, by rw [happ, List.cons_append], hne, hand, hps, ?_⟩
          rw [hcut, consFirst]

/-! ### Whole clauses -/

/-- A text that is a single clause and leaves no quote open. -/
def IsWhole (t : Text) : Prop :=
  clauses t = [t] ∧ (Scan.start.after t).opened = none

theorem clauses_of_noCut {t : Text} (ht : Text.IsTrimmed t) (h : NoCut Scan.start t []) :
    clauses t = [t] := by
  rw [clauses, cut_of_noCut h, List.map_singleton, Text.strip_eq_self ht]

theorem isWhole_iff {t : Text} (ht : Text.IsTrimmed t) :
    IsWhole t ↔ NoCut Scan.start t [] ∧ (Scan.start.after t).opened = none := by
  constructor
  · rintro ⟨hc, ho⟩
    refine ⟨?_, ho⟩
    by_contra hn
    obtain ⟨p, r, ps, -, -, -, hne, hcut⟩ := cut_of_not_noCut hn
    rw [List.append_nil] at hcut
    rw [clauses, hcut, List.map_cons, List.cons.injEq, List.map_eq_nil_iff] at hc
    exact hne hc.2
  · rintro ⟨hn, ho⟩
    exact ⟨clauses_of_noCut ht hn, ho⟩

theorem startsWithAnd_space_join {t : Text} (h : startsWithAnd (' ' :: t) = false)
    (ts : List Text) : startsWithAnd (' ' :: Text.join " and ".toText (t :: ts)) = false := by
  cases ts with
  | nil => rwa [Text.join_singleton]
  | cons u us =>
      rw [Text.join_cons_cons, List.append_assoc]
      exact (startsWithAnd_append_space (List.cons_ne_nil (.char ' ') t) _).trans h

/-- Whole clauses with *and* between neighbours are cut apart again. -/
theorem clauses_join {ts : List Text} (hne : ts ≠ []) (hw : ∀ t ∈ ts, IsWhole t)
    (hand : ∀ t ∈ ts.tail, startsWithAnd (' ' :: t) = false) :
    clauses (Text.join " and ".toText ts) = ts := by
  induction ts with
  | nil => exact absurd rfl hne
  | cons t ts ih =>
      cases ts with
      | nil => rw [Text.join_singleton, (hw t List.mem_cons_self).1]
      | cons u us =>
          have hu := hand u List.mem_cons_self
          have hb := startsWithAnd_space_join hu us
          have ht := hw t List.mem_cons_self
          rw [Text.join_cons_cons, List.append_assoc]
          refine (clauses_append ht.2 hb).trans ?_
          rw [ht.1, ih (List.cons_ne_nil u us) (fun x hx => hw x (List.mem_cons_of_mem _ hx))
            (fun x hx => hand x (List.mem_cons_of_mem _ hx)), List.singleton_append]

/-! ### How many clauses there are -/

/-- A text in which no piece ends, whatever quote is open in front of it. -/
def IsUncut (t : Text) : Prop :=
  ∀ s, NoCut s t []

/-- A text without quotes that ends in a connective. -/
def EndsInAnd (t : Text) : Prop :=
  ∃ u x n d, t = u ++ [.char ' ', x, n, d] ∧ startsWithAnd [' ', x, n, d] = true ∧
    ∀ c ∈ u, Literal.isQuote c = false

theorem isUncut_of_tails {t : Text} (h : ∀ r ∈ t.tails, startsWithAnd r = false) : IsUncut t := by
  intro s
  induction t generalizing s with
  | nil => trivial
  | cons c t ih =>
      rw [List.tails_cons] at h
      refine ⟨fun _ => ?_, ih (fun r hr => h r (List.mem_cons_of_mem _ hr)) _⟩
      rw [List.append_nil]
      exact h _ List.mem_cons_self

theorem EndsInAnd.not_quote {t : Text} (h : EndsInAnd t) : ∀ c ∈ t, Literal.isQuote c = false := by
  obtain ⟨u, x, n, d, rfl, hand, hu⟩ := h
  obtain ⟨hx, hn, hd⟩ := not_quote_of_startsWithAnd hand
  simp only [List.mem_append, List.mem_cons, List.not_mem_nil, or_false]
  rintro c (hc | rfl | rfl | rfl | rfl)
  · exact hu c hc
  · decide
  · exact hx
  · exact hn
  · exact hd

/-- Where no quote is open, nothing is left behind a connective that ends a text or that another
one follows. -/
theorem EndsInAnd.nil_mem_tail_cut {t : Text} (h : EndsInAnd t) {s : Scan} (hs : s.opened = none)
    {b : Text} (hb : b = [] ∨ startsWithAnd b = true) : [] ∈ (cut s 0 (t ++ b)).tail := by
  obtain ⟨u, x, n, d, rfl, hand, hu⟩ := h
  have ho : (s.after u).opened = none := by rw [Scan.after_opened_of_not_quote hu, hs]
  have hand' : startsWithAnd (' ' :: x :: n :: d :: b) = true := by
    rcases hb with rfl | hb
    · exact hand
    · obtain ⟨x', n', d', b', rfl, -⟩ := eq_of_startsWithAnd hb
      exact (startsWithAnd_append_space (List.cons_ne_nil (.char ' ') [x, n, d]) _).trans hand
  have hrest : [] ∈ cut ⟨none, some d⟩ 0 b := by
    rcases hb with rfl | hb
    · exact List.mem_singleton_self []
    · obtain ⟨x', n', d', b', rfl, -⟩ := eq_of_startsWithAnd hb
      have ho' : (Scan.step ⟨none, some d⟩ ' ').opened = none :=
        Scan.step_opened_of_not_quote (by decide) _
      rw [cut_cons, if_pos ⟨ho', hb⟩]
      exact List.mem_cons_self
  rw [List.append_assoc, List.cons_append, List.cons_append, List.cons_append, List.cons_append,
    List.nil_append, cut_append_and (Nat.zero_le _) ho hand']
  obtain ⟨p, ps, hp⟩ := List.exists_cons_of_ne_nil (cut_ne_nil s 0 u)
  rw [hp, List.cons_append, List.tail_cons]
  exact List.mem_append_right _ hrest

/-- A text that leaves a quote open takes the word *and* and the piece behind it. -/
theorem cut_join_of_opened {s : Scan} {t : Text} (hn : NoCut s t [])
    (ho : (s.after t).opened ≠ none) (u : Text) :
    cut s 0 (t ++ " and ".toText ++ u) =
      (cut (s.after (t ++ " and ".toText)) 0 u).modifyHead (t ++ " and ".toText ++ ·) :=
  cut_append_of_noCut (noCut_append.mpr ⟨noCut_space_iff.mpr hn,
    noCut_of_opened ho (Text.forall_mem_of_any (by decide)) u⟩)

/-- A text that leaves no quote open is a piece of its own in front of *and*. -/
theorem cut_join_of_closed {s : Scan} {t u : Text} (hn : NoCut s t [])
    (ho : (s.after t).opened = none) (hu : startsWithAnd (' ' :: u) = false) :
    cut s 0 (t ++ " and ".toText ++ u) = t :: consFirst ' ' (cut Scan.start 0 u) := by
  have hf : (Scan.step ⟨none, some (.char 'd')⟩ ' ').IsFresh := ⟨by decide, by decide⟩
  have hand : startsWithAnd (' ' :: 'a' :: 'n' :: 'd' :: ' ' :: u) = true := rfl
  have hcut := cut_append_and (Nat.zero_le t.length) ho hand
  rw [cut_of_noCut hn, cut_cons, if_neg (by simp [hu]), cut_of_isFresh hf] at hcut
  rw [List.append_assoc]
  exact hcut

/-- Joining leaves at most as many pieces as there are texts, or else an empty one. A quote that is
open in front changes nothing about that. -/
theorem length_cut_join_le {ts : List Text} (hne : ts ≠ [])
    (hand : ∀ t ∈ ts, startsWithAnd (' ' :: t) = false)
    (hcut : ∀ t ∈ ts, IsUncut t ∨ EndsInAnd t) (s : Scan) :
    [] ∈ (cut s 0 (Text.join " and ".toText ts)).tail ∨
      (cut s 0 (Text.join " and ".toText ts)).length ≤ ts.length := by
  induction ts generalizing s with
  | nil => exact absurd rfl hne
  | cons t ts ih =>
      -- either nothing ends in the first text, or it ends in a connective outside quotes
      have ht : NoCut s t [] ∨ (EndsInAnd t ∧ s.opened = none) := by
        rcases hcut t List.mem_cons_self with h | h
        · exact Or.inl (h s)
        · by_cases ho : s.opened = none
          · exact Or.inr ⟨h, ho⟩
          · exact Or.inl (noCut_of_opened ho h.not_quote [])
      cases ts with
      | nil =>
          rw [Text.join_singleton]
          rcases ht with hn | ⟨he, ho⟩
          · exact Or.inr (by rw [cut_of_noCut hn])
          · have hnil := he.nil_mem_tail_cut ho (Or.inl rfl)
            rw [List.append_nil] at hnil
            exact Or.inl hnil
      | cons u us =>
          have hand' : ∀ x ∈ u :: us, startsWithAnd (' ' :: x) = false :=
            fun x hx => hand x (List.mem_cons_of_mem _ hx)
          have ih' := ih (List.cons_ne_nil u us) hand' fun x hx =>
            hcut x (List.mem_cons_of_mem _ hx)
          rw [Text.join_cons_cons]
          rcases ht with hn | ⟨he, ho⟩
          · by_cases ho : (s.after t).opened = none
            · have hu := startsWithAnd_space_join (hand' u List.mem_cons_self) us
              obtain ⟨p, ps, hp⟩ := List.exists_cons_of_ne_nil
                (cut_ne_nil Scan.start 0 (Text.join " and ".toText (u :: us)))
              have hrest := ih' Scan.start
              rw [hp, List.tail_cons] at hrest
              rw [cut_join_of_closed hn ho hu, hp, consFirst, List.tail_cons]
              exact hrest.imp (List.mem_cons_of_mem _) (Nat.succ_le_succ ·)
            · rw [cut_join_of_opened hn ho, List.tail_modifyHead, List.length_modifyHead]
              exact (ih' _).imp_right Nat.le_succ_of_le
          · rw [List.append_assoc]
            exact Or.inl (he.nil_mem_tail_cut ho (Or.inr rfl))

end TrackerQuery.Where
