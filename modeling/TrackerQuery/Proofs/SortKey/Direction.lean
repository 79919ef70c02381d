import TrackerQuery.Proofs.SortKey

/-!
# TrackerQuery.Proofs.SortKey.Direction

**What taking direction words off** the end of a key leaves.

A round takes the word at the end together with every blank in front of it
(`dropWord?_append`), so what the rounds take off is a text of directions, each with its
gap (`exists_directions`). They stop where no direction is left, after at most as many
rounds as the text is long, and further rounds change nothing (`dropWords_congr`).

A direction behind a key that is not blank goes in the first round
(`stripDirection_append_direction`). Therefore what is left does not depend on how the
end of a key is cut into directions: there is only one text that has no direction at its
end and differs from the trimmed key by directions (`eq_stripDirection`).
-/

namespace TrackerQuery.SortKey

/-- Holds of the texts that consist of direction words, each with a gap in front of it. -/
inductive Directions : Text → Prop where
  | nil : Directions []
  | append {front gap w : Text} (h : Directions front) (hgap : Text.IsGap gap)
      (hw : IsDirection w) : Directions (front ++ gap ++ w)

theorem IsDirection.isWord {w : Text} (h : IsDirection w) : Text.IsWord w := by
  obtain ⟨word, hword, hw⟩ := h
  exact Text.isWord_of_isKeyword (isLetters_of_mem_directionWords word hword) hw

/-- Directions start with a blank. -/
theorem Directions.eq_nil {t : Text} (h : Directions t) (ht : Text.StartsDark t) : t = [] := by
  induction h with
  | nil => rfl
  | @append front gap w h hgap hw ih =>
      have hfront : front = [] := ih ht.of_append.of_append
      rw [hfront, List.nil_append] at ht
      exact absurd ht (hgap.not_startsDark w)

/-! ### One round -/

theorem dropWord?_eq_some_directions {reversed rest : Text}
    (h : dropWord? reversed directionWords = some rest) :
    Text.StartsDark rest ∧ ∃ gap w, reversed = w.reverse ++ (gap.reverse ++ rest) ∧
      Text.IsGap gap ∧ IsDirection w := by
  obtain ⟨word, hword, gap, hb⟩ := dropWord?_eq_some h
  obtain ⟨hdark, hgap, w, rfl, hw⟩ := Text.beforeKeyword?_eq_some_iff.mp hb
  have hletters := (isLetters_of_mem_directionWords word hword).2
  refine ⟨hdark, gap.reverse, w.reverse, ?_, hgap.reverse, word, hword, ?_⟩
  · rw [List.reverse_reverse, List.reverse_reverse]
  · rwa [← Text.isKeyword_reverse hletters, List.reverse_reverse]

/-- A round takes the last direction with all blanks in front of it. -/
theorem dropWord?_append {gap w : Text} (hgap : Text.IsGap gap) (hw : IsDirection w)
    (front : Text) :
    dropWord? (front ++ gap ++ w).reverse directionWords = some (Text.dropBlank front.reverse) := by
  cases h : dropWord? (front ++ gap ++ w).reverse directionWords with
  | none => exact absurd ⟨front, gap, w, rfl, hgap, hw⟩ (dropWord?_reverse_eq_none_iff.mp h)
  | some rest =>
      obtain ⟨hdark, gap', w', hrev, hgap', hw'⟩ := dropWord?_eq_some_directions h
      rw [List.reverse_append, List.reverse_append] at hrev
      -- both sides are a word, a gap and more, and what stands behind the gap is the same
      have hrest := congrArg (Text.dropBlank ∘ Text.afterWord) hrev
      simp only [Function.comp_apply] at hrest
      rw [hw.isWord.reverse.dropBlank_afterWord hgap.reverse,
        hw'.isWord.reverse.dropBlank_afterWord hgap'.reverse, Text.dropBlank_eq_self hdark] at hrest
      rw [hrest]

/-! ### All rounds -/

/-- Rounds beyond the length of the text change nothing. -/
theorem dropWords_congr {m n : Nat} {reversed : Text} (hm : reversed.length ≤ m)
    (hn : reversed.length ≤ n) : dropWords m reversed = dropWords n reversed := by
  induction m generalizing n reversed with
  | zero =>
      have hnone : dropWord? reversed directionWords = none := by
        rw [List.eq_nil_of_length_eq_zero (Nat.le_zero.mp hm)]
        rfl
      rw [dropWords_eq_self hnone, dropWords_eq_self hnone]
  | succ m ih =>
      cases h : dropWord? reversed directionWords with
      | none => rw [dropWords_eq_self h, dropWords_eq_self h]
      | some rest =>
          have hlt := length_of_dropWord? h
          cases n with
          | zero => omega
          | succ n =>
              rw [dropWords, dropWords, h]
              exact ih (by omega) (by omega)

/-- One round, and then those for the rest. -/
theorem dropWords_eq {rounds : Nat} {reversed rest : Text}
    (h : dropWord? reversed directionWords = some rest) (hrounds : reversed.length ≤ rounds) :
    dropWords rounds reversed = dropWords rest.length rest := by
  have hlt := length_of_dropWord? h
  cases rounds with
  | zero => omega
  | succ rounds =>
      rw [dropWords, h]
      exact dropWords_congr (by omega) (Nat.le_refl _)

/-- What the rounds take off the end of a text is a text of directions. -/
theorem exists_directions (rounds : Nat) (reversed : Text) :
    ∃ tail, reversed.reverse = (dropWords rounds reversed).reverse ++ tail ∧ Directions tail := by
  induction rounds generalizing reversed with
  | zero => exact ⟨[], (List.append_nil _).symm, .nil⟩
  | succ rounds ih =>
      rw [dropWords]
      split
      · exact ⟨[], (List.append_nil _).symm, .nil⟩
      · next rest h =>
          obtain ⟨-, gap, w, rfl, hgap, hw⟩ := dropWord?_eq_some_directions h
          obtain ⟨tail, htail, hdirections⟩ := ih rest
          refine ⟨tail ++ gap ++ w, ?_, hdirections.append hgap hw⟩
          simp [htail]

/-! ### The key that is left -/

theorem stripDirection_strip (key : Text) :
    stripDirection (Text.strip key) = stripDirection key := by
  rw [stripDirection, stripDirection, Text.strip_eq_self (Text.isTrimmed_strip key)]

/-- A direction behind a key that is not blank is taken off. -/
theorem stripDirection_append_direction {key gap w blanks : Text}
    (hkey : Text.isAllBlank key = false) (hgap : Text.IsGap gap) (hw : IsDirection w)
    (hblanks : ∀ c ∈ blanks, Text.isBlank c = true) :
    stripDirection (key ++ gap ++ w ++ blanks) = stripDirection key := by
  have hstrip : Text.strip (key ++ gap ++ w ++ blanks) = Text.dropBlank key ++ gap ++ w := by
    rw [Text.strip_append_word (Text.isAllBlank_append hkey gap) hw.isWord hblanks,
      Text.dropBlank_append hkey]
  have hround : dropWord? (Text.strip (key ++ gap ++ w ++ blanks)).reverse directionWords =
      some (Text.strip key).reverse := by
    rw [hstrip, dropWord?_append hgap hw, Text.strip, Text.dropBlankEnd, List.reverse_reverse]
  rw [stripDirection, stripDirection]
  simp only [dropWords_eq hround (Nat.le_of_eq List.length_reverse), List.length_reverse]

theorem stripDirection_append_directions {key tail : Text} (hkey : Text.isAllBlank key = false)
    (h : Directions tail) : stripDirection (key ++ tail) = stripDirection key := by
  induction h with
  | nil => rw [List.append_nil]
  | @append front gap w h hgap hw ih =>
      have hround : stripDirection (key ++ front ++ gap ++ w ++ []) =
          stripDirection (key ++ front) :=
        stripDirection_append_direction (Text.isAllBlank_append hkey front) hgap hw (by simp)
      rw [List.append_nil] at hround
      rw [← List.append_assoc, ← List.append_assoc, hround, ih]

/-- Holds of a key and what is left of it without the directions at its end. -/
structure LeavesBare (key r : Text) : Prop where
  trimmed : Text.IsTrimmed r
  directions : ∃ tail, Text.strip key = r ++ tail ∧ Directions tail
  bare : ¬EndsInDirection r

theorem leavesBare_stripDirection (key : Text) : LeavesBare key (stripDirection key) where
  trimmed := isTrimmed_stripDirection key
  directions := by
    have h := exists_directions (Text.strip key).length (Text.strip key).reverse
    rwa [List.reverse_reverse] at h
  bare := not_endsInDirection_stripDirection key

theorem LeavesBare.eq_nil_iff {key r : Text} (h : LeavesBare key r) :
    r = [] ↔ Text.isAllBlank key = true := by
  obtain ⟨tail, hstrip, htail⟩ := h.directions
  rw [← Text.isEmpty_strip, List.isEmpty_iff, hstrip, List.append_eq_nil_iff]
  constructor
  · rintro rfl
    -- a key of directions only would start with a blank
    have hdark : Text.StartsDark tail := by
      rw [← List.nil_append tail, ← hstrip]
      exact (Text.isTrimmed_strip key).1
    exact ⟨rfl, htail.eq_nil hdark⟩
  · exact And.left

/-- There is one text only that is left of a key. -/
theorem eq_stripDirection {key r : Text} (h : LeavesBare key r) : r = stripDirection key := by
  cases hkey : Text.isAllBlank key with
  | true => rw [h.eq_nil_iff.mpr hkey, (leavesBare_stripDirection key).eq_nil_iff.mpr hkey]
  | false =>
      obtain ⟨tail, hstrip, htail⟩ := h.directions
      have hne : r ≠ [] := by
        rw [ne_eq, h.eq_nil_iff, hkey]
        exact Bool.false_ne_true
      have hr : Text.isAllBlank r = false := by
        rwa [← Text.isEmpty_strip, Text.strip_eq_self h.trimmed, List.isEmpty_eq_false_iff]
      rw [← stripDirection_strip key, hstrip, stripDirection_append_directions hr htail,
        stripDirection_eq_self h.trimmed h.bare]

/-! ### Main statement -/

/-- **Exactly the directions at the end of a key are taken off.** What is left is trimmed, differs
from the trimmed key by directions, and ends in none; no other text does. It is empty for a blank
key only, and nothing more is taken off it. The rounds come to an end within the length of the
key, and it does not matter whether one more direction stands behind a key that is not blank. -/
theorem stripDirection_takesDirections (key : Text) :
    (∀ r, stripDirection key = r ↔ LeavesBare key r) ∧
      (stripDirection key = [] ↔ Text.isAllBlank key = true) ∧
      stripDirection (stripDirection key) = stripDirection key ∧
      (∀ rounds, (Text.strip key).length ≤ rounds →
        (dropWords rounds (Text.strip key).reverse).reverse = stripDirection key) ∧
      ∀ gap w blanks, Text.isAllBlank key = false → Text.IsGap gap → IsDirection w →
        (∀ c ∈ blanks, Text.isBlank c = true) →
        stripDirection (key ++ gap ++ w ++ blanks) = stripDirection key := by
  have hbare := leavesBare_stripDirection key
  refine ⟨fun r => ⟨?_, fun h => (eq_stripDirection h).symm⟩, hbare.eq_nil_iff,
    stripDirection_eq_self hbare.trimmed hbare.bare, fun rounds hrounds => ?_,
    fun _ _ _ => stripDirection_append_direction⟩
  · rintro rfl
    exact hbare
  · rw [stripDirection]
    have hlength := (Text.strip key).length_reverse
    simp only [dropWords_congr (hlength ▸ hrounds) (Nat.le_of_eq hlength)]

/-- A word that only ends in the letters of a direction stays, and so does a direction with nothing
in front of it. -/
theorem stripDirection_takesDirections_stacked :
    let key := " Topdesc \tDESC".toText
    let gap := " \n".toText
    let w := "A\u017Fc".toText
    let blanks := "\t ".toText
    Text.isAllBlank key = false ∧ Text.IsGap gap ∧ IsDirection w ∧
      (∀ c ∈ blanks, Text.isBlank c = true) ∧
      stripDirection (key ++ gap ++ w ++ blanks) = stripDirection key ∧
      stripDirection key = "Topdesc".toText ∧ stripDirection "desc ASC".toText = "desc".toText := by
  intro key gap w blanks
  have hkey : Text.isAllBlank key = false := by decide
  have hgap : Text.IsGap gap := by decide
  have hw : IsDirection w := ⟨"asc".toText, by decide, by decide⟩
  have hblanks : ∀ c ∈ blanks, Text.isBlank c = true := List.all_eq_true.mp rfl
  obtain ⟨-, -, -, -, happend⟩ := stripDirection_takesDirections key
  exact ⟨hkey, hgap, hw, hblanks, happend gap w blanks hkey hgap hw hblanks, by decide +kernel,
    by decide +kernel⟩

end TrackerQuery.SortKey
