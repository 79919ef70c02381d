import TrackerQuery.Proofs.Literal.Date

/-!
# TrackerQuery.Proofs.Literal.BuiltDate

**Dates that a caller has built** into date literals, against dates that are classified.

A date literal passes through classification, and what it holds is shown by its own day.
A moment that is classified is shown by its day in universal time. So the two routes write
a moment alike exactly if it keeps its day (`Moment.KeepsDay`), and since an array can be
read back, two arrays are written alike exactly if all moments in them do
(`formatRaw_built_iff`).
-/

namespace TrackerQuery.Datum

/-! ### Texts of arrays -/

section Limits

variable [Limits]

theorem formatAll_cons_eq_ok {u : Datum} {us : List Datum} {texts : List Text} :
    formatAll (u :: us) = .ok texts ↔
      ∃ t ts, format u = .ok t ∧ formatAll us = .ok ts ∧ texts = t :: ts := by
  rw [formatAll]
  cases format u <;> cases formatAll us <;> simp [eq_comm]

theorem format_array_eq_ok {us : List Datum} {t : Text} :
    format (arrayLiteral us) = .ok t ↔
      ∃ texts, formatAll us = .ok texts ∧
        t = .char '[' :: Text.join [','] texts ++ [.char ']'] := by
  rw [format]
  cases formatAll us <;> simp [eq_comm]

theorem format_date_eq_ok {value : Datum} {t : Text} :
    format (dateLiteral value) = .ok t ↔ ∃ d, literalDay value = .ok d ∧ t = formatDay d := by
  rw [format]
  cases literalDay value <;> simp [eq_comm]

/-- A value that is not classified is shown in the fault, if it can be. -/
theorem format_of_not_isLiteral {x : Datum} (h : x.isLiteral = false) :
    format x = match x.shown with
      | .ok t => .error (.unclassified t)
      | .error f => .error f := by
  cases x <;> first | rfl | cases h

theorem isLiteral_of_format {x : Datum} {t : Text} (h : format x = .ok t) :
    x.isLiteral = true := by
  cases hliteral : x.isLiteral with
  | true => rfl
  | false =>
      rw [format_of_not_isLiteral hliteral] at h
      split at h <;> cases h

mutual

/-- What is rendered is a written form. -/
theorem exists_write {u : Datum} {t : Text} (h : format u = .ok t) :
    ∃ n : Meaning, t = n.write := by
  have hliteral := isLiteral_of_format h
  cases u
  case nullLiteral => exact ⟨.null, (Except.ok.inj h).symm⟩
  case boolLiteral b => exact ⟨.truth b, (Except.ok.inj h).symm⟩
  case textLiteral raw => exact ⟨.text (Literal.meaning raw), (Except.ok.inj h).symm⟩
  case dateLiteral value =>
    obtain ⟨d, -, rfl⟩ := format_date_eq_ok.mp h
    exact ⟨.text d.iso, formatDay_eq d⟩
  case arrayLiteral items =>
    obtain ⟨texts, htexts, rfl⟩ := format_array_eq_ok.mp h
    obtain ⟨ns, rfl⟩ := exists_writeAll htexts
    exact ⟨.array ns, by rw [Meaning.write]⟩
  all_goals cases hliteral

theorem exists_writeAll {us : List Datum} {texts : List Text} (h : formatAll us = .ok texts) :
    ∃ ns, texts = Meaning.writeAll ns := by
  cases us with
  | nil => exact ⟨[], (Except.ok.inj h).symm⟩
  | cons u us =>
      obtain ⟨t, ts, hu, hus, rfl⟩ := formatAll_cons_eq_ok.mp h
      obtain ⟨n, rfl⟩ := exists_write hu
      obtain ⟨ns, rfl⟩ := exists_writeAll hus
      exact ⟨n :: ns, by rw [Meaning.writeAll]⟩

end

/-- Arrays that are written alike have items that are written alike. -/
theorem texts_inj {us vs : List Datum} {ss ts : List Text} (hs : formatAll us = .ok ss)
    (ht : formatAll vs = .ok ts)
    (h : CodePoint.char '[' :: Text.join [','] ss ++ [.char ']'] =
      .char '[' :: Text.join [','] ts ++ [.char ']']) : ss = ts := by
  obtain ⟨ms, rfl⟩ := exists_writeAll hs
  obtain ⟨ns, rfl⟩ := exists_writeAll ht
  have harray : (Meaning.array ms).write = (Meaning.array ns).write := by
    rw [Meaning.write, Meaning.write, h]
  rw [Meaning.array.inj (Meaning.write_injective harray)]

/-! ### The two routes -/

theorem formatRaw_eq_ok {x : Datum} {t : Text} :
    formatRaw x = .ok t ↔ ∃ l, classify x = .ok l ∧ format l = .ok t := by
  rw [formatRaw]
  cases classify x <;> simp

/-- Holds of a day, or a moment of some kind, and the date literal that is built from it, and of a
value with a literal text, no sequence, and the value itself. -/
inductive Built (p : Moment → Prop) : Datum → Datum → Prop where
  | day (d : Day) : Built p (day d) (dateLiteral (day d))
  | moment {m : Moment} (h : p m) : Built p (moment m) (dateLiteral (moment m))
  | same {x : Datum} {t : Text} (hx : x.sequence? = none) (h : formatRaw x = .ok t) : Built p x x

theorem built_moment_iff {p : Moment → Prop} {m : Moment} :
    Pointwise (Built p) (moment m) (dateLiteral (moment m)) ↔ p m := by
  constructor
  · intro h
    cases h with
    | item h =>
        cases h with
        | moment h => exact h
    | sequence hx => cases hx
  · intro h
    exact .item (.moment h)

theorem built_sequence_iff {p : Moment → Prop} {x y : Datum} {xs ys : List Datum}
    (hx : x.sequence? = some xs) (hy : y.sequence? = some ys) :
    Pointwise (Built p) x y ↔ PointwiseAll (Built p) xs ys := by
  constructor
  · intro h
    cases h with
    | item h =>
        cases h with
        | day => cases hx
        | moment => cases hx
        | same hnone => simp [hnone] at hx
    | sequence hx' hy' h =>
        obtain rfl := Option.some.inj (hx.symm.trans hx')
        obtain rfl := Option.some.inj (hy.symm.trans hy')
        exact h
  · exact .sequence hx hy

theorem built_cons_iff {p : Moment → Prop} {x y : Datum} {xs ys : List Datum} :
    PointwiseAll (Built p) (x :: xs) (y :: ys) ↔
      Pointwise (Built p) x y ∧ PointwiseAll (Built p) xs ys := by
  constructor
  · intro h
    cases h with
    | cons h hs => exact ⟨h, hs⟩
  · rintro ⟨h, hs⟩
    exact .cons h hs

/-- Two values have literal texts, which are the same if and only if a statement holds. -/
def TextsAgreeIff (x y : Datum) (p : Prop) : Prop :=
  ∃ k l s t, classify x = .ok k ∧ format k = .ok s ∧ classify y = .ok l ∧ format l = .ok t ∧
    (t = s ↔ p)

omit [Limits] in
theorem formatDay_inj {d e : Day} : formatDay d = formatDay e ↔ d = e := by
  constructor
  · intro h
    rw [formatDay, formatDay, List.cons_append, List.cons_append, List.cons.injEq] at h
    exact Day.iso_injective (List.append_cancel_right h.2)
  · rintro rfl
    rfl

theorem Built.textsAgreeIff {x y : Datum} (h : Built Moment.IsWithinRange x y) :
    TextsAgreeIff x y (Pointwise (Built Moment.KeepsDay) x y) := by
  cases h with
  | day d =>
      exact ⟨_, _, _, _, rfl, rfl, rfl, rfl, iff_of_true rfl (.item (.day d))⟩
  | @moment m hm =>
      obtain ⟨d, hd⟩ := Moment.exists_utcDay? hm
      refine ⟨dateLiteral (.day d), dateLiteral (.moment m), formatDay d, formatDay m.day, ?_, rfl,
        rfl, rfl, ?_⟩
      · rw [classify, classifyMoment, hd]
      · rw [formatDay_inj, built_moment_iff, ← Moment.utcDay?_eq_day_iff, hd, Option.some.injEq,
          eq_comm]
  | same hx ht =>
      obtain ⟨l, hl, hlt⟩ := formatRaw_eq_ok.mp ht
      exact ⟨l, l, _, _, hl, hlt, hl, hlt, iff_of_true rfl (.item (.same hx ht))⟩

mutual

theorem Pointwise.textsAgreeIff {x y : Datum} (h : Pointwise (Built Moment.IsWithinRange) x y) :
    TextsAgreeIff x y (Pointwise (Built Moment.KeepsDay) x y) := by
  match h with
  | .item h => exact h.textsAgreeIff
  | .sequence hx hy h =>
      obtain ⟨ks, ls, ss, ts, hks, hss, hls, hts, hiff⟩ := h.textsAgreeIff
      refine ⟨arrayLiteral ks, arrayLiteral ls, _, _, ?_, format_array_eq_ok.mpr ⟨ss, hss, rfl⟩,
        ?_, format_array_eq_ok.mpr ⟨ts, hts, rfl⟩, ?_⟩
      · rw [classify_of_sequence? hx, hks]
        rfl
      · rw [classify_of_sequence? hy, hls]
        rfl
      · rw [built_sequence_iff hx hy, ← hiff]
        constructor
        · exact texts_inj hts hss
        · rintro rfl
          rfl

theorem PointwiseAll.textsAgreeIff {xs ys : List Datum}
    (h : PointwiseAll (Built Moment.IsWithinRange) xs ys) :
    ∃ ks ls ss ts, classifyAll xs = .ok ks ∧ formatAll ks = .ok ss ∧ classifyAll ys = .ok ls ∧
      formatAll ls = .ok ts ∧ (ts = ss ↔ PointwiseAll (Built Moment.KeepsDay) xs ys) := by
  match h with
  | .nil => exact ⟨[], [], [], [], rfl, rfl, rfl, rfl, iff_of_true rfl .nil⟩
  | .cons h hs =>
      obtain ⟨k, l, s, t, hk, hfs, hl, hft, hiff⟩ := h.textsAgreeIff
      obtain ⟨ks, ls, ss, ts, hks, hss, hls, hts, hall⟩ := hs.textsAgreeIff
      refine ⟨k :: ks, l :: ls, s :: ss, t :: ts, classifyAll_cons_eq_ok.mpr ⟨k, ks, hk, hks, rfl⟩,
        formatAll_cons_eq_ok.mpr ⟨s, ss, hfs, hss, rfl⟩,
        classifyAll_cons_eq_ok.mpr ⟨l, ls, hl, hls, rfl⟩,
        formatAll_cons_eq_ok.mpr ⟨t, ts, hft, hts, rfl⟩, ?_⟩
      rw [List.cons.injEq, hiff, hall, built_cons_iff]

end

/-- **The two routes for a date agree exactly where the moment keeps its day.** Let two values
differ only in that some dates of the first, at any depth of sequences, are built into date
literals in the second. If the instants of those dates are on the calendar, the value with them
built is classified, and both values have a literal text. The texts are the same if and only if
each moment that is built has its local day in universal time as well, as all moments without an
offset do. -/
theorem formatRaw_built_iff {x y : Datum} (h : Pointwise (Built Moment.IsWithinRange) x y) :
    ∃ l s t, classify y = .ok l ∧ format l = .ok t ∧ formatRaw x = .ok s ∧
      (t = s ↔ Pointwise (Built Moment.KeepsDay) x y) := by
  obtain ⟨k, l, s, t, hk, hs, hl, ht, hiff⟩ := h.textsAgreeIff
  exact ⟨l, s, t, hl, ht, formatRaw_eq_ok.mpr ⟨k, hk, hs⟩, hiff⟩

end Limits

/-- A moment without an offset and one at noon keep their days, alone and among other values. -/
theorem formatRaw_built_iff_noon :
    let naive : Moment := ⟨⟨2024, 3, 5, by decide⟩, ⟨23, 30, 0, 0, by decide⟩, none⟩
    let noon : Moment := ⟨⟨2024, 3, 5, by decide⟩, ⟨12, 0, 0, 0, by decide⟩,
      some ⟨-18000000000, by decide⟩⟩
    let x := list [text "a".toText, moment naive, tuple [moment noon]]
    let y := list [text "a".toText, dateLiteral (moment naive), tuple [dateLiteral (moment noon)]]
    Pointwise (Built Moment.IsWithinRange) x y ∧ Pointwise (Built Moment.KeepsDay) x y ∧
      ∃ l, classify y = .ok l ∧ format l = formatRaw x := by
  intro naive noon x y
  have hbuilt : ∀ p, p naive → p noon → Pointwise (Built p) x y := fun p hnaive hnoon =>
    .sequence rfl rfl (.cons (.item (.same rfl rfl)) (.cons (.item (.moment hnaive))
      (.cons (.sequence rfl rfl (.cons (.item (.moment hnoon)) .nil)) .nil)))
  have hwithin : Pointwise (Built Moment.IsWithinRange) x y :=
    hbuilt _ (Moment.utcDay?_eq_none_iff.not_left.mp (by decide))
      (Moment.utcDay?_eq_none_iff.not_left.mp (by decide))
  have hkeep : Pointwise (Built Moment.KeepsDay) x y :=
    hbuilt _ (Moment.utcDay?_eq_day_iff.mp (by decide)) (Moment.utcDay?_eq_day_iff.mp (by decide))
  obtain ⟨l, s, t, hl, ht, hs, hiff⟩ := formatRaw_built_iff hwithin
  exact ⟨hwithin, hkeep, l, hl, by rw [ht, hs, hiff.mpr hkeep]⟩

/-- In the evening five hours behind, the day in universal time is the following one. The date
literal that is built from the moment shows the local day, and the moment itself the other. -/
theorem formatRaw_built_evening :
    let m : Moment := ⟨⟨2024, 3, 5, by decide⟩, ⟨23, 30, 0, 0, by decide⟩,
      some ⟨-18000000000, by decide⟩⟩
    m.IsWithinRange ∧ format (dateLiteral (moment m)) = .ok "'2024-03-05'".toText ∧
      formatRaw (moment m) = .ok "'2024-03-06'".toText ∧
      format (dateLiteral (moment m)) ≠ formatRaw (moment m) := by
  intro m
  let following : Day := ⟨2024, 3, 6, by decide⟩
  have hday : m.utcDay? = some following := by decide +kernel
  have hbuilt : format (dateLiteral (moment m)) = .ok "'2024-03-05'".toText :=
    format_date_eq_ok.mpr ⟨m.day, rfl, by decide +kernel⟩
  have hraw : formatRaw (moment m) = .ok "'2024-03-06'".toText := by
    refine formatRaw_eq_ok.mpr ⟨dateLiteral (day following), ?_, ?_⟩
    · rw [classify, classifyMoment, hday]
    · exact format_date_eq_ok.mpr ⟨following, rfl, by decide +kernel⟩
  refine ⟨Moment.utcDay?_eq_none_iff.not_left.mp (by decide), hbuilt, hraw, ?_⟩
  rw [hbuilt, hraw]
  decide

end TrackerQuery.Datum
