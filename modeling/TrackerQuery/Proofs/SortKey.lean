import TrackerQuery.Proofs.Datum
import TrackerQuery.Proofs.Datum.Limit
import TrackerQuery.Proofs.Text.Keyword
import TrackerQuery.SortKey

/-!
# TrackerQuery.Proofs.SortKey

The **fields** that sort keys are reduced to.

Whatever the shape of a key, its field is trimmed: a direction word is taken off
together with the blanks in front of it, so each round leaves a trimmed text
(`isTrimmed_dropWords`). Fields that are empty are left out, so none of those that
are kept is (`isTrimmed_of_fields`).

A key that is a text loses all direction words at its end: each round shortens it, so the
rounds suffice (`not_endsInDirection_stripDirection`). The field of a dictionary or of a
structured key is trimmed and no more. What is sent is therefore free of direction words,
and sorting by it once more changes nothing, exactly if those fields are
(`fields_isBare_iff`).
-/

namespace TrackerQuery.SortKey

/-! ### Direction words -/

theorem dropWord?_eq_some {words : List Text} {reversed rest : Text}
    (h : dropWord? reversed words = some rest) :
    ∃ word ∈ words, ∃ gap, Text.beforeKeyword? word reversed = some (gap, rest) := by
  induction words with
  | nil => exact absurd h (by simp [dropWord?])
  | cons word words ih =>
      rw [dropWord?] at h
      split at h
      · next gap front hb =>
          obtain rfl := Option.some.inj h
          exact ⟨word, List.mem_cons_self, gap, hb⟩
      · obtain ⟨k, hk, gap, hb⟩ := ih h
        exact ⟨k, List.mem_cons_of_mem word hk, gap, hb⟩

theorem dropWord?_eq_none_iff {words : List Text} {reversed : Text} :
    dropWord? reversed words = none ↔ ∀ word ∈ words, Text.beforeKeyword? word reversed = none := by
  induction words with
  | nil => simp [dropWord?]
  | cons word words ih =>
      rw [dropWord?, List.forall_mem_cons, ← ih]
      cases Text.beforeKeyword? word reversed <;> simp

/-- A round leaves a shorter text, since at least one blank goes. -/
theorem length_of_dropWord? {words : List Text} {reversed rest : Text}
    (h : dropWord? reversed words = some rest) : rest.length < reversed.length := by
  obtain ⟨word, -, gap, hb⟩ := dropWord?_eq_some h
  obtain ⟨-, hgap, w, rfl, -⟩ := Text.beforeKeyword?_eq_some_iff.mp hb
  have hpos : 0 < gap.length := List.length_pos_of_ne_nil hgap.1
  rw [List.length_append, List.length_append]
  omega

/-- Taking direction words off the end of a trimmed text leaves a trimmed text. -/
theorem isTrimmed_dropWords (rounds : Nat) {reversed : Text}
    (h : Text.IsTrimmed reversed.reverse) :
    Text.IsTrimmed (dropWords rounds reversed).reverse := by
  induction rounds generalizing reversed with
  | zero => exact h
  | succ rounds ih =>
      rw [dropWords]
      split
      · exact h
      · next rest hr =>
          obtain ⟨word, -, gap, hb⟩ := dropWord?_eq_some hr
          obtain ⟨hdark, front, rfl⟩ := Text.beforeKeyword?_eq_some hb
          refine ih ⟨?_, by rwa [List.reverse_reverse]⟩
          have hfront := h.1
          rw [List.reverse_append] at hfront
          exact hfront.of_append

theorem isTrimmed_stripDirection (key : Text) : Text.IsTrimmed (stripDirection key) := by
  refine isTrimmed_dropWords _ ?_
  rw [List.reverse_reverse]
  exact Text.isTrimmed_strip key

/-- As many rounds as the text is long leave no direction word. -/
theorem dropWord?_dropWords {rounds : Nat} {reversed : Text} (h : reversed.length ≤ rounds) :
    dropWord? (dropWords rounds reversed) directionWords = none := by
  induction rounds generalizing reversed with
  | zero =>
      rw [List.eq_nil_of_length_eq_zero (Nat.le_zero.mp h)]
      rfl
  | succ rounds ih =>
      rw [dropWords]
      split
      · next hr => exact hr
      · next rest hr =>
          have hlen := length_of_dropWord? hr
          exact ih (by omega)

theorem dropWords_eq_self {reversed : Text} (h : dropWord? reversed directionWords = none)
    (rounds : Nat) : dropWords rounds reversed = reversed := by
  cases rounds with
  | zero => rfl
  | succ rounds => rw [dropWords, h]

/-! ### Texts that end in a direction -/

/-- Holds of the direction words in any case. -/
def IsDirection (w : Text) : Prop :=
  ∃ word ∈ directionWords, Text.isKeyword word w = true

/-- Holds of the texts that end in a direction word with at least one blank in front of it. -/
def EndsInDirection (t : Text) : Prop :=
  ∃ front gap w, t = front ++ gap ++ w ∧ Text.IsGap gap ∧ IsDirection w

theorem isLetters_of_mem_directionWords : ∀ word ∈ directionWords, Text.IsLetters word := by
  decide

theorem dropWord?_reverse_eq_none_iff {t : Text} :
    dropWord? t.reverse directionWords = none ↔ ¬EndsInDirection t := by
  have hletters : ∀ word ∈ directionWords, ∀ l ∈ word, l ∈ Text.letters :=
    fun word hword => (isLetters_of_mem_directionWords word hword).2
  rw [dropWord?_eq_none_iff]
  constructor
  · rintro hnone ⟨front, gap, w, rfl, hgap, word, hword, hw⟩
    rw [← Text.isKeyword_reverse (hletters word hword)] at hw
    refine Text.beforeKeyword?_eq_none_iff.mp (hnone word hword) w.reverse gap.reverse
      front.reverse hgap.reverse hw ?_
    rw [List.reverse_append, List.reverse_append]
  · intro hend word hword
    refine Text.beforeKeyword?_eq_none_iff.mpr fun w gap front hgap hw hrev => hend ?_
    refine ⟨front.reverse, gap.reverse, w.reverse, ?_, hgap.reverse, word, hword, ?_⟩
    · rw [← List.reverse_append, ← List.reverse_append, ← hrev, List.reverse_reverse]
    · rwa [← Text.isKeyword_reverse (hletters word hword), List.reverse_reverse]

/-- No direction word is left at the end of a key. -/
theorem not_endsInDirection_stripDirection (key : Text) :
    ¬EndsInDirection (stripDirection key) := by
  rw [← dropWord?_reverse_eq_none_iff, stripDirection, List.reverse_reverse]
  exact dropWord?_dropWords (Nat.le_of_eq List.length_reverse)

theorem stripDirection_eq_self {t : Text} (ht : Text.IsTrimmed t) (h : ¬EndsInDirection t) :
    stripDirection t = t := by
  have hnone := dropWord?_reverse_eq_none_iff.mpr h
  rw [stripDirection, Text.strip_eq_self ht]
  exact (congrArg List.reverse (dropWords_eq_self hnone t.length)).trans t.reverse_reverse

/-! ### Fields -/

/-- The text of the field that a dictionary or a structured sort key gives. -/
def structuredField? : Datum → Option Text
  | .dict entries => (Datum.lookupText fieldName entries).map Datum.toText
  | .sortItem item => some item.field
  | _ => none

theorem structuredField?_eq_none {key : Datum} (hdict : ∀ entries, key ≠ .dict entries)
    (hitem : ∀ item, key ≠ .sortItem item) : structuredField? key = none := by
  unfold structuredField?
  split
  · next entries => exact absurd rfl (hdict entries)
  · next item => exact absurd rfl (hitem item)
  · rfl

section Limits

variable [Limits]

theorem refuse_ne_ok (key : Datum) (why : Text → Rejection) (f : Text) :
    refuse key why ≠ .ok f := by
  rw [refuse]
  cases key.shown <;> simp

/-- What a key has for a field: a text without direction words, or a structured field trimmed. -/
theorem field_eq_ok {key : Datum} {f : Text} (h : field key = .ok f) :
    (∃ t, structuredField? key = none ∧ key.asText? = some t ∧ f = stripDirection t) ∨
      ∃ t, structuredField? key = some t ∧ f = Text.strip t := by
  unfold field at h
  split at h
  · next entries =>
      split at h
      · next value hvalue =>
          split at h
          · next t ht =>
              obtain ⟨-, rfl⟩ := Datum.written_eq_ok.mp ht
              refine Or.inr ⟨value.toText, ?_, (Except.ok.inj h).symm⟩
              rw [structuredField?, hvalue]
              rfl
          · cases h
      · exact absurd h (refuse_ne_ok _ _ _)
  · next item => exact Or.inr ⟨item.field, rfl, (Except.ok.inj h).symm⟩
  · next hdict hitem =>
      split at h
      · next t ht =>
          exact Or.inl ⟨t, structuredField?_eq_none hdict hitem, ht, (Except.ok.inj h).symm⟩
      · exact absurd h (refuse_ne_ok _ _ _)

theorem isTrimmed_of_field {key : Datum} {f : Text} (h : field key = .ok f) :
    Text.IsTrimmed f := by
  rcases field_eq_ok h with ⟨t, -, -, rfl⟩ | ⟨t, -, rfl⟩
  · exact isTrimmed_stripDirection t
  · exact Text.isTrimmed_strip t

theorem fields_cons_eq_ok {key : Datum} {keys : List Datum} {fs : List Text} :
    fields (key :: keys) = .ok fs ↔ ∃ f fs', field key = .ok f ∧ fields keys = .ok fs' ∧
      (if f.isEmpty then fs' else f :: fs') = fs := by
  rw [fields]
  cases field key with
  | error => simp
  | ok f => cases fields keys <;> simp

/-- The fields are those of the keys that are not empty. -/
theorem mem_fields {keys : List Datum} {fs : List Text} (h : fields keys = .ok fs) {f : Text} :
    f ∈ fs ↔ f ≠ [] ∧ ∃ k ∈ keys, field k = .ok f := by
  induction keys generalizing fs with
  | nil =>
      obtain rfl := Except.ok.inj h
      simp
  | cons key keys ih =>
      obtain ⟨g, fs', hg, hfs', rfl⟩ := fields_cons_eq_ok.mp h
      have hrest := ih hfs'
      have hkey : field key = .ok f ↔ f = g := by rw [hg, Except.ok.injEq, eq_comm]
      rw [List.exists_mem_cons_iff, hkey, and_or_left, ← hrest]
      cases g with
      | nil => simp
      | cons c g =>
          rw [List.isEmpty_cons, if_neg Bool.false_ne_true, List.mem_cons]
          refine or_congr_left (iff_and_self.mpr ?_)
          rintro rfl
          exact List.cons_ne_nil c g

/-- The fields of sort keys are trimmed and not empty. -/
theorem isTrimmed_of_fields {keys : List Datum} {fs : List Text} (h : fields keys = .ok fs) :
    ∀ f ∈ fs, f ≠ [] ∧ Text.IsTrimmed f := by
  intro f hf
  obtain ⟨hne, k, -, hk⟩ := (mem_fields h).mp hf
  exact ⟨hne, isTrimmed_of_field hk⟩

/-- Fields remain if and only if some key has one that is not empty. -/
theorem fields_ne_nil {keys : List Datum} {fs : List Text} (h : fields keys = .ok fs) :
    fs ≠ [] ↔ ∃ k ∈ keys, ∃ f, field k = .ok f ∧ f ≠ [] := by
  constructor
  · intro hne
    obtain ⟨f, hf⟩ := List.exists_mem_of_ne_nil fs hne
    obtain ⟨hfne, k, hk, hkf⟩ := (mem_fields h).mp hf
    exact ⟨k, hk, f, hkf, hfne⟩
  · rintro ⟨k, hk, f, hkf, hfne⟩
    exact List.ne_nil_of_mem ((mem_fields h).mpr ⟨hfne, k, hk, hkf⟩)

/-! ### Keys without a field -/

/-- Holds of the keys that have no field: they neither give one, as a dictionary or a structured
key does, nor are a text. -/
def IsMalformed (key : Datum) : Prop :=
  structuredField? key = none ∧ key.asText? = none

/-- Holds of the rejections of a key. -/
inductive IsKeyRejection : Rejection → Prop where
  | withoutField (shown : Text) : IsKeyRejection (.sortKeyWithoutField shown)
  | bad (shown : Text) : IsKeyRejection (.badSortKey shown)

/-- A key is refused with a rejection if it can be shown. -/
theorem refuse_cases (key : Datum) (why : Text → Rejection) :
    (key.IsWritable ∧ refuse key why = .error (.rejected (why key.inspect))) ∨
      (¬key.IsWritable ∧ ∃ f, refuse key why = .error f ∧ Datum.IsLongNumber f) := by
  rw [refuse]
  cases h : key.shown with
  | ok t =>
      obtain ⟨hkey, rfl⟩ := Datum.shown_eq_ok.mp h
      exact .inl ⟨hkey, rfl⟩
  | error f =>
      obtain ⟨hkey, hf⟩ := Datum.shown_eq_error h
      exact .inr ⟨hkey, f, rfl, hf⟩

/-- How a key ends: it has a field, or it is rejected because it has none, or a number in it has too
many digits to be written. -/
theorem field_cases (key : Datum) :
    (¬IsMalformed key ∧ ∃ f, field key = .ok f) ∨
      (IsMalformed key ∧ key.IsWritable ∧
        ∃ r, field key = .error (.rejected r) ∧ IsKeyRejection r) ∨
      (¬key.IsWritable ∧ ∃ f, field key = .error f ∧ Datum.IsLongNumber f) := by
  unfold field IsMalformed
  split
  · next entries =>
      rw [structuredField?]
      split
      · next value hvalue =>
          cases hw : value.written with
          | ok t => exact .inl ⟨by simp [hvalue], _, rfl⟩
          | error f =>
              -- the value is one of those that the dictionary shows
              obtain ⟨hvalue', hf⟩ := Datum.written_eq_error hw
              obtain ⟨k, hk⟩ := Datum.exists_mem_of_lookup hvalue
              refine .inr (.inr ⟨?_, f, rfl, hf⟩)
              exact fun hkey => hvalue' (Datum.isWritable_of_mem hkey hk)
      · next hnone =>
          refine .inr ((refuse_cases _ _).imp_left fun h => ?_)
          exact ⟨⟨by rw [hnone]; rfl, rfl⟩, h.1, _, h.2, .withoutField _⟩
  · next item => exact .inl ⟨by simp [structuredField?], _, rfl⟩
  · next hdict hitem =>
      have hnone := structuredField?_eq_none hdict hitem
      split
      · next t ht => exact .inl ⟨by simp [ht], _, rfl⟩
      · next ht =>
          refine .inr ((refuse_cases _ _).imp_left fun h => ?_)
          exact ⟨⟨hnone, ht⟩, h.1, _, h.2, .bad _⟩

/-- A key is rejected if it has no field and can be shown. -/
theorem exists_field_eq_rejected_iff {key : Datum} :
    (∃ r, field key = .error (.rejected r)) ↔ IsMalformed key ∧ key.IsWritable := by
  obtain ⟨hbad, f, hf⟩ | ⟨hbad, hkey, r, hr, -⟩ | ⟨hkey, f, hf, most, -, hlong⟩ := field_cases key
  · simp [hf, hbad]
  · simp [hr, hbad, hkey]
  · simp [hf, hlong, hkey]

theorem isKeyRejection_of_field {key : Datum} {r : Rejection}
    (h : field key = .error (.rejected r)) : IsKeyRejection r := by
  obtain ⟨-, f, hf⟩ | ⟨-, -, r', hr, hkind⟩ | ⟨-, f, hf, most, -, rfl⟩ := field_cases key
  · rw [hf] at h
    cases h
  · rw [hr] at h
    cases h
    exact hkind
  · rw [hf] at h
    cases h

theorem fields_cons_eq_error {key : Datum} {keys : List Datum} {e : Fault} :
    fields (key :: keys) = .error e ↔
      field key = .error e ∨ ∃ f, field key = .ok f ∧ fields keys = .error e := by
  rw [fields]
  cases field key with
  | error => simp
  | ok f => cases fields keys <;> simp

/-- Keys fail as the first of them does that has no field. -/
theorem fields_eq_error_iff {keys : List Datum} {e : Fault} :
    fields keys = .error e ↔ ∃ before key after, keys = before ++ key :: after ∧
      (∀ b ∈ before, ∃ f, field b = .ok f) ∧ field key = .error e := by
  constructor
  · intro h
    induction keys with
    | nil => cases h
    | cons key keys ih =>
        obtain hkey | ⟨f, hf, hrest⟩ := fields_cons_eq_error.mp h
        · exact ⟨[], key, keys, rfl, by simp, hkey⟩
        · obtain ⟨before, bad, after, rfl, hbefore, hbad⟩ := ih hrest
          exact ⟨key :: before, bad, after, rfl, List.forall_mem_cons.mpr ⟨⟨f, hf⟩, hbefore⟩, hbad⟩
  · intro h
    obtain ⟨before, bad, after, rfl, hbefore, hbad⟩ := h
    induction before with
    | nil => exact fields_cons_eq_error.mpr (.inl hbad)
    | cons key before ih =>
        obtain ⟨⟨f, hf⟩, hrest⟩ := List.forall_mem_cons.mp hbefore
        exact fields_cons_eq_error.mpr (.inr ⟨f, hf, ih hrest⟩)

end Limits

/-! ### Direction words in fields -/

/-- Holds of the dictionaries and structured keys whose field ends in a direction. -/
def HidesDirection (key : Datum) : Prop :=
  ∃ t, structuredField? key = some t ∧ EndsInDirection (Text.strip t)

theorem not_endsInDirection_nil : ¬EndsInDirection [] := by
  rintro ⟨front, gap, w, h, hgap, -⟩
  obtain ⟨hfront, -⟩ := List.append_eq_nil_iff.mp h.symm
  exact hgap.1 (List.append_eq_nil_iff.mp hfront).2

section Limits

variable [Limits]

theorem endsInDirection_field_iff {key : Datum} {f : Text} (h : field key = .ok f) :
    EndsInDirection f ↔ HidesDirection key := by
  rcases field_eq_ok h with ⟨t, hnone, -, rfl⟩ | ⟨t, hsome, rfl⟩
  · refine iff_of_false (not_endsInDirection_stripDirection t) ?_
    rintro ⟨u, hu, -⟩
    rw [hnone] at hu
    cases hu
  · constructor
    · intro hend
      exact ⟨t, hsome, hend⟩
    · rintro ⟨u, hu, hend⟩
      obtain rfl := Option.some.inj (hsome.symm.trans hu)
      exact hend

theorem exists_field {keys : List Datum} {fs : List Text} (h : fields keys = .ok fs) :
    ∀ k ∈ keys, ∃ f, field k = .ok f := by
  induction keys generalizing fs with
  | nil => exact nofun
  | cons key keys ih =>
      obtain ⟨f, fs', hf, hfs', -⟩ := fields_cons_eq_ok.mp h
      exact List.forall_mem_cons.mpr ⟨⟨f, hf⟩, ih hfs'⟩

/-- Some field ends in a direction if and only if some key hides one. -/
theorem forall_not_endsInDirection_iff {keys : List Datum} {fs : List Text}
    (h : fields keys = .ok fs) :
    (∀ f ∈ fs, ¬EndsInDirection f) ↔ ∀ k ∈ keys, ¬HidesDirection k := by
  constructor
  · intro hfs k hk hhides
    obtain ⟨f, hf⟩ := exists_field h k hk
    have hend := (endsInDirection_field_iff hf).mpr hhides
    -- a field that ends in a direction is not empty, so it is among those that are kept
    have hne : f ≠ [] := by
      rintro rfl
      exact not_endsInDirection_nil hend
    exact hfs f ((mem_fields h).mpr ⟨hne, k, hk, hf⟩) hend
  · intro hkeys f hf hend
    obtain ⟨-, k, hk, hkf⟩ := (mem_fields h).mp hf
    exact hkeys k hk ((endsInDirection_field_iff hkf).mp hend)

/-- Fields that are trimmed and not empty are their own fields if and only if none of them ends in
a direction. -/
theorem fields_texts_iff {fs : List Text} (hfs : ∀ f ∈ fs, f ≠ [] ∧ Text.IsTrimmed f) :
    fields (fs.map .text) = .ok fs ↔ ∀ f ∈ fs, ¬EndsInDirection f := by
  constructor
  · intro h f hf
    obtain ⟨-, k, hk, hkf⟩ := (mem_fields h).mp hf
    obtain ⟨t, -, rfl⟩ := List.mem_map.mp hk
    obtain rfl : stripDirection t = f := Except.ok.inj hkf
    exact not_endsInDirection_stripDirection t
  · intro hbare
    induction fs with
    | nil => rfl
    | cons f fs ih =>
        obtain ⟨⟨hne, htrimmed⟩, hrest⟩ := List.forall_mem_cons.mp hfs
        obtain ⟨hf, hbare'⟩ := List.forall_mem_cons.mp hbare
        have hself : field (.text f) = .ok f :=
          congrArg Except.ok (stripDirection_eq_self htrimmed hf)
        refine fields_cons_eq_ok.mpr ⟨f, fs, hself, ih hrest hbare', ?_⟩
        rw [if_neg (by simpa using hne)]

/-- **Sort keys lose their directions** exactly if no dictionary or structured key has a field that
ends in one. Then no field that is sent does, and the fields are their own fields; otherwise
neither is true. -/
theorem fields_isBare_iff {keys : List Datum} {fs : List Text} (h : fields keys = .ok fs) :
    ((∀ f ∈ fs, ¬EndsInDirection f) ↔ ∀ k ∈ keys, ¬HidesDirection k) ∧
      (fields (fs.map .text) = .ok fs ↔ ∀ k ∈ keys, ¬HidesDirection k) := by
  have hbare := forall_not_endsInDirection_iff h
  exact ⟨hbare, (fields_texts_iff (isTrimmed_of_fields h)).trans hbare⟩

end Limits

/-- A text with two directions, a dictionary with a direction of its own and a structured key. -/
theorem fields_isBare_iff_mixture :
    let keys : List Datum :=
      [.text " Name\t DESC asc".toText,
        .dict [(.text "field".toText, .text "Priority".toText),
          (.text "direction".toText, .text "desc".toText)],
        .sortItem ⟨"Effort".toText, .desc⟩]
    let fs : List Text := ["Name".toText, "Priority".toText, "Effort".toText]
    fields keys = .ok fs ∧
      ((∀ f ∈ fs, ¬EndsInDirection f) ↔ ∀ k ∈ keys, ¬HidesDirection k) ∧
      fields (fs.map .text) = .ok fs ∧ ∀ k ∈ keys, ¬HidesDirection k := by
  intro keys fs
  have hfields : fields keys = .ok fs := by decide +kernel
  have hagain : fields (fs.map .text) = .ok fs := by decide +kernel
  obtain ⟨hbare, hfixed⟩ := fields_isBare_iff hfields
  exact ⟨hfields, hbare, hagain, hfixed.mp hagain⟩

/-- The direction in the field of a dictionary is sent, and taken off in a second round. -/
theorem fields_isBare_hidden :
    let keys : List Datum := [.dict [(.text "field".toText, .text "Name asc".toText)]]
    fields keys = .ok ["Name asc".toText] ∧ EndsInDirection "Name asc".toText ∧
      fields [.text "Name asc".toText] = .ok ["Name".toText] := by
  refine ⟨by decide +kernel, ?_, by decide +kernel⟩
  exact ⟨"Name".toText, [' '], "asc".toText, rfl, by decide, ['a', 's', 'c'], by decide, rfl⟩

end TrackerQuery.SortKey
