import TrackerQuery.Proofs.Where.Grammar

/-!
# TrackerQuery.Proofs.Where.MatchOrder

The **order of the comparisons** decides nothing.

Each comparison stands for a pattern: its words with gaps between, one more gap, and a value in
one line (`Comparison.Matches`). A gap takes all the blanks it can, so of the values for which the
pattern matches, the shortest one is captured (`Comparison.Captures`).

What follows the words of a comparison is determined by the text, and a gap that takes all it can
is the longest one there. So the value that is captured is the one that is found behind the words,
if that is in one line (`captures_iff`). No text matches two patterns, since its first word would be
the first word of both; hence the comparisons may be tried in any order.

Main statement: `matchComparison?_orderIndependent`.
-/

namespace TrackerQuery

/-- Holds if the pattern of a comparison matches all of a text, with some value at its end. -/
structure Comparison.Matches (op : Comparison) (t value : Text) : Prop where
  /-- The words of the comparison and a gap are in front of the value. -/
  splits : ∃ spelled gap, t = spelled ++ gap ++ value ∧ Text.Spells op.words spelled ∧
    Text.IsGap gap
  /-- There is a value. -/
  value_ne_nil : value ≠ []
  /-- No line ends in it. -/
  one_line : .char '\n' ∉ value

/-- Holds of the value that the pattern of a comparison captures: its gap takes all it can. -/
structure Comparison.Captures (op : Comparison) (t value : Text) : Prop
    extends op.Matches t value where
  /-- No longer gap leaves a value. -/
  shortest : ∀ v, op.Matches t v → value.length ≤ v.length

namespace Condition

/-- What follows the words of a comparison is determined by the text. -/
theorem append_inj_of_spells {op : Comparison} {spelled rest spelled' rest' : Text}
    (hs : Text.Spells op.words spelled) (hs' : Text.Spells op.words spelled')
    (happ : spelled ++ rest = spelled' ++ rest') : rest = rest' := by
  have hiff := fun r => @afterWords?_eq_some_iff op.words (words_ne_nil op)
    (isLetters_of_mem_comparison op) (spelled ++ rest) r
  have hrest := (hiff rest).mpr ⟨spelled, rfl, hs⟩
  have hrest' := (hiff rest').mpr ⟨spelled', happ, hs'⟩
  exact Option.some.inj (hrest.symm.trans hrest')

/-- No text matches the patterns of two comparisons. -/
theorem eq_of_matches {op op' : Comparison} {t value value' : Text} (h : op.Matches t value)
    (h' : op'.Matches t value') : op = op' := by
  obtain ⟨spelled, gap, rfl, hs, hg⟩ := h.splits
  obtain ⟨spelled', gap', happ, hs', hg'⟩ := h'.splits
  exact eq_of_spells hs hg hs' hg' happ

/-- A captured value has no blank in front that the gap could take. -/
theorem leftByGap_of_captures {op : Comparison} {t value : Text} (h : op.Captures t value) :
    Text.LeftByGap value := by
  obtain ⟨c, u, rfl⟩ := List.exists_cons_of_ne_nil h.value_ne_nil
  refine ⟨c, u, rfl, ?_⟩
  intro hc
  by_contra hu
  obtain ⟨spelled, gap, ht, hs, hg⟩ := h.splits
  have hshorter : op.Matches t u := by
    refine ⟨⟨spelled, gap ++ [c], ?_, hs, hg.concat hc⟩, hu, ?_⟩
    · simp [ht]
    · exact fun hline => h.one_line (List.mem_cons_of_mem c hline)
  have hle := h.shortest u hshorter
  rw [List.length_cons] at hle
  omega

/-- The value that is captured is the one that is found, if that is in one line. -/
theorem captures_iff {op : Comparison} {t value : Text} :
    op.Captures t value ↔ comparedValue? op t = some value ∧ .char '\n' ∉ value := by
  rw [comparedValue?_eq_some_iff]
  constructor
  · intro h
    obtain ⟨spelled, gap, ht, hs, hg⟩ := h.splits
    exact ⟨⟨spelled, gap, ht, hs, hg, leftByGap_of_captures h⟩, h.one_line⟩
  · intro h
    obtain ⟨⟨spelled, gap, ht, hs, hg, hleft⟩, hline⟩ := h
    refine ⟨⟨⟨spelled, gap, ht, hs, hg⟩, hleft.ne_nil, hline⟩, ?_⟩
    intro v hv
    obtain ⟨spelled', gap', ht', hs', hg'⟩ := hv.splits
    rw [ht, List.append_assoc, List.append_assoc] at ht'
    exact hleft.length_le hg' hv.value_ne_nil (append_inj_of_spells hs hs' ht')

theorem matchComparison?_perm {ops ops' : List Comparison} (hp : ops.Perm ops') (t : Text) :
    matchComparison? t ops = matchComparison? t ops' := by
  refine Option.ext fun found => ?_
  obtain ⟨op, value⟩ := found
  rw [matchComparison?_eq_some_iff, matchComparison?_eq_some_iff, hp.mem_iff]

/-- **The order of the comparisons decides nothing.** No text matches the patterns of two
comparisons. In whatever order they are tried, the same one is found with the same value, or none:
it is the one whose pattern matches the text, and its value the one that the pattern captures. -/
theorem matchComparison?_orderIndependent (t : Text) :
    (∀ (op op' : Comparison) value value', op.Matches t value → op'.Matches t value' → op = op') ∧
      ∀ ops : List Comparison, ops.Perm Comparison.matchOrder →
        matchComparison? t ops = matchComparison? t Comparison.matchOrder ∧
          ∀ (op : Comparison) value,
            matchComparison? t ops = some (op, value) ∧ .char '\n' ∉ value ↔
            op.Captures t value := by
  refine ⟨fun op op' value value' => eq_of_matches, ?_⟩
  intro ops hp
  refine ⟨matchComparison?_perm hp t, ?_⟩
  intro op value
  have hmem : op ∈ ops := hp.mem_iff.mpr (mem_matchOrder op)
  rw [captures_iff, matchComparison?_eq_some_iff, and_iff_right hmem]

/-- Tried from the end, shorter comparisons come first, and one that ends the words of another. -/
theorem matchComparison?_orderIndependent_reversed :
    let t := "NOT \t contains \u2003x".toText
    let ops := Comparison.matchOrder.reverse
    ops.Perm Comparison.matchOrder ∧ matchComparison? t ops = some (.notContains, "x".toText) ∧
      matchComparison? t Comparison.matchOrder = some (.notContains, "x".toText) ∧
      Comparison.notContains.Captures t "x".toText ∧
      ∀ value, ¬Comparison.contains.Matches t value := by
  intro t ops
  have hp : ops.Perm Comparison.matchOrder := List.reverse_perm Comparison.matchOrder
  obtain ⟨hone, hany⟩ := matchComparison?_orderIndependent t
  obtain ⟨heq, hcaptures⟩ := hany ops hp
  have hfound : matchComparison? t ops = some (.notContains, "x".toText) := by decide
  have hcap := (hcaptures .notContains "x".toText).mp ⟨hfound, by decide⟩
  refine ⟨hp, hfound, heq ▸ hfound, hcap, ?_⟩
  intro value hmatch
  exact absurd (hone .notContains .contains "x".toText value hcap.toMatches hmatch) (by decide)

end Condition

end TrackerQuery
