import Mathlib.Data.List.Basic
import TrackerQuery.Text.Utf8

/-!
# TrackerQuery.Proofs.Text.Utf8

Laws of **texts as bytes**.

A text is made of characters, or a surrogate stands alone in it (`chars?_eq_some`). In the
first case it has bytes, and it is read back from them (`ofUtf8?_utf8`); in the second case
it has none.
-/

namespace TrackerQuery.Text

theorem chars?_eq_some {t : Text} {cs : List Char} : t.chars? = some cs ↔ t = ofChars cs := by
  induction t generalizing cs with
  | nil => cases cs <;> simp [chars?, ofChars]
  | cons c t ih =>
      cases c with
      | lone half => cases cs <;> simp [chars?, ofChars]
      | char c =>
          rw [chars?, Option.map_eq_some_iff]
          constructor
          · intro h
            obtain ⟨ds, hds, rfl⟩ := h
            rw [ih.mp hds]
            rfl
          · intro h
            cases cs with
            | nil => cases h
            | cons d ds =>
                obtain ⟨hc, hds⟩ := List.cons_eq_cons.mp h
                exact ⟨ds, ih.mpr hds, by rw [CodePoint.char.inj hc]⟩

theorem isEncodable_eq_isSome (t : Text) : t.isEncodable = t.chars?.isSome := by
  induction t with
  | nil => rfl
  | cons c t ih =>
      cases c with
      | lone half => rfl
      | char c =>
          rw [chars?, Option.isSome_map, ← ih]
          rfl

theorem toText_injective {s s' : String} (h : s.toText = s'.toText) : s = s' :=
  String.toList_inj.mp (List.map_injective_iff.mpr (fun _ _ => CodePoint.char.inj) h)

theorem isEncodable_toText (s : String) : s.toText.isEncodable = true := by
  simp [isEncodable, String.toText, ofChars, CodePoint.isChar]

/-- A text has bytes, or a surrogate stands alone in it. -/
theorem toUtf8?_cases (t : Text) :
    (t.isEncodable = true ∧ ∃ cs, t = ofChars cs ∧ t.toUtf8? = some (utf8 cs)) ∨
      (t.isEncodable = false ∧ t.toUtf8? = none) := by
  rw [isEncodable_eq_isSome, toUtf8?]
  cases h : t.chars? with
  | some cs => exact .inl ⟨rfl, cs, chars?_eq_some.mp h, rfl⟩
  | none => exact .inr ⟨rfl, rfl⟩

end TrackerQuery.Text
