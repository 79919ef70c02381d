import TrackerQuery.Literal.Classify
import TrackerQuery.Proofs.Calendar.Iso
import TrackerQuery.Proofs.Literal.Quoted

/-!
# TrackerQuery.Proofs.Literal.Meaning

What **literal text says**, and that it says nothing else.

A literal says nothing, a truth value, a text, or an array of what literals say. A
day is written as the text of its date, so its literal says that text. Arrays are
written without any escaping: commas stand between the items and brackets around
them, whatever the items are. They can be read back all the same, since the first
character of a written form tells which kind it is, and no written form goes on
where another one has ended (`write_append_inj`).

A classified value is written as what it says (`format_eq_write`), so two values are
written alike exactly if they say the same (`format_eq_format_iff`).
-/

namespace TrackerQuery

/-- What a literal says. -/
inductive Meaning where
  /-- Nothing. -/
  | null
  /-- A truth value. -/
  | truth (b : Bool)
  /-- A text. -/
  | text (t : Text)
  /-- An array of what literals say. -/
  | array (items : List Meaning)
  deriving Repr

/-! ### Written forms -/

namespace Meaning

mutual

/-- The written form of what a literal says. -/
def write : Meaning → Text
  | null => "null".toText
  | truth b => if b then "true".toText else "false".toText
  | text t => Literal.ofText t
  | array items => CodePoint.char '[' :: Text.join [','] (writeAll items) ++ [.char ']']

/-- The written forms of the items of an array. -/
def writeAll : List Meaning → List Text
  | [] => []
  | x :: xs => x.write :: writeAll xs

end

/-- The items behind the first one as they stand in an array, and the end of the array. -/
def writeTail : List Meaning → Text
  | [] => [']']
  | x :: xs => CodePoint.char ',' :: x.write ++ writeTail xs

theorem join_writeAll_cons (x : Meaning) (xs : List Meaning) :
    Text.join [','] (writeAll (x :: xs)) ++ [.char ']'] = x.write ++ writeTail xs := by
  induction xs generalizing x with
  | nil => rw [writeAll, writeAll, Text.join_singleton, writeTail]
  | cons y ys ih =>
      rw [writeAll, writeAll, Text.join_cons_cons, ← writeAll, List.append_assoc,
        List.append_assoc, ih y, writeTail]
      rfl

/-- The first character of a written form. -/
def mark : Meaning → CodePoint
  | null => 'n'
  | truth b => if b then 't' else 'f'
  | text _ => Literal.apostrophe
  | array _ => '['

theorem write_eq_cons (x : Meaning) : ∃ t, x.write = x.mark :: t := by
  cases x with
  | truth b => cases b <;> exact ⟨_, rfl⟩
  | _ => exact ⟨_, rfl⟩

theorem mark_ne_bracket (x : Meaning) : x.mark ≠ ']' := by
  cases x <;> grind [mark, Literal.apostrophe]

/-- The first character tells the kind. -/
theorem mark_eq_of_append_eq {x y : Meaning} {r r' : Text}
    (h : x.write ++ r = y.write ++ r') : x.mark = y.mark := by
  obtain ⟨t, ht⟩ := x.write_eq_cons
  obtain ⟨u, hu⟩ := y.write_eq_cons
  rw [ht, hu] at h
  exact List.head_eq_of_cons_eq h

theorem head?_writeTail_append (xs : List Meaning) (r : Text) :
    (writeTail xs ++ r).head? ≠ some Literal.apostrophe := by
  cases xs with
  | nil => exact (by decide : some (.char ']') ≠ some Literal.apostrophe)
  | cons x xs => exact (by decide : some (.char ',') ≠ some Literal.apostrophe)

theorem write_array_cons (x : Meaning) (xs : List Meaning) :
    (array (x :: xs)).write = .char '[' :: (x.write ++ writeTail xs) := by
  rw [← join_writeAll_cons, write]
  rfl

/-- An array does not end where an item starts. -/
theorem write_array_nil_append_ne (x : Meaning) (xs : List Meaning) (r r' : Text) :
    (array []).write ++ r ≠ (array (x :: xs)).write ++ r' := by
  obtain ⟨u, hu⟩ := x.write_eq_cons
  rw [write_array_cons, hu]
  intro h
  exact x.mark_ne_bracket (List.head_eq_of_cons_eq (List.tail_eq_of_cons_eq h)).symm

/-! ### Reading back -/

mutual

/-- A written form is no proper beginning of another one, if no apostrophe follows. -/
theorem write_append_inj {x y : Meaning} {r r' : Text} (hr : r.head? ≠ some Literal.apostrophe)
    (hr' : r'.head? ≠ some Literal.apostrophe) (h : x.write ++ r = y.write ++ r') :
    x = y ∧ r = r' := by
  have hmark : x.mark = y.mark := mark_eq_of_append_eq h
  cases x <;> cases y
  case null.null => exact ⟨rfl, List.append_cancel_left h⟩
  case truth.truth b b' =>
    obtain rfl : b = b' := by grind [mark]
    exact ⟨rfl, List.append_cancel_left h⟩
  case text.text t t' =>
    obtain rfl : t = t' := Literal.ofText_append_inj hr hr' h
    exact ⟨rfl, List.append_cancel_left h⟩
  case array.array xs ys =>
    obtain ⟨rfl, rfl⟩ := write_array_append_inj hr hr' h
    exact ⟨rfl, rfl⟩
  -- the first characters of different kinds differ
  all_goals grind [mark, Literal.apostrophe]

theorem write_array_append_inj {xs ys : List Meaning} {r r' : Text}
    (hr : r.head? ≠ some Literal.apostrophe) (hr' : r'.head? ≠ some Literal.apostrophe)
    (h : (array xs).write ++ r = (array ys).write ++ r') : xs = ys ∧ r = r' := by
  match xs, ys with
  | [], [] => exact ⟨rfl, List.append_cancel_left h⟩
  | [], y :: ys => exact absurd h (write_array_nil_append_ne y ys r r')
  | x :: xs, [] => exact absurd h.symm (write_array_nil_append_ne x xs r' r)
  | x :: xs, y :: ys =>
      rw [write_array_cons, write_array_cons, List.cons_append, List.cons_append,
        List.append_assoc, List.append_assoc] at h
      -- a comma or the closing bracket follows the first item, so it ends at the same place
      obtain ⟨rfl, htail⟩ := write_append_inj (head?_writeTail_append xs r)
        (head?_writeTail_append ys r') (List.tail_eq_of_cons_eq h)
      obtain ⟨rfl, rfl⟩ := writeTail_append_inj hr hr' htail
      exact ⟨rfl, rfl⟩

theorem writeTail_append_inj {xs ys : List Meaning} {r r' : Text}
    (hr : r.head? ≠ some Literal.apostrophe) (hr' : r'.head? ≠ some Literal.apostrophe)
    (h : writeTail xs ++ r = writeTail ys ++ r') : xs = ys ∧ r = r' := by
  match xs, ys with
  | [], [] => exact ⟨rfl, List.append_cancel_left h⟩
  | [], y :: ys => exact absurd (List.head_eq_of_cons_eq h) (by decide)
  | x :: xs, [] => exact absurd (List.head_eq_of_cons_eq h) (by decide)
  | x :: xs, y :: ys =>
      rw [writeTail, writeTail, List.append_assoc, List.append_assoc] at h
      obtain ⟨rfl, htail⟩ := write_append_inj (head?_writeTail_append xs r)
        (head?_writeTail_append ys r') (List.tail_eq_of_cons_eq h)
      obtain ⟨rfl, rfl⟩ := writeTail_append_inj hr hr' htail
      exact ⟨rfl, rfl⟩

end

theorem write_injective {x y : Meaning} (h : x.write = y.write) : x = y := by
  have hend : ([] : Text).head? ≠ some Literal.apostrophe := nofun
  exact (write_append_inj hend hend (congrArg (· ++ []) h)).1

end Meaning

/-! ### Days -/

/-- A day is written as the text of its date. -/
theorem Datum.formatDay_eq (d : Day) : formatDay d = Literal.ofText d.iso := by
  have hiso : Literal.apostrophe ∉ d.iso := fun h => by
    rcases Day.mem_iso h with h | h <;> exact absurd h (by decide)
  rw [formatDay, Literal.ofText, Literal.double_eq_self hiso]
  rfl

/-! ### What values say -/

theorem Literal.denoted?_quote (raw : Text) : denoted? (quote raw) = some (meaning raw) := by
  have hend : ([] : Text).head? ≠ some apostrophe := nofun
  have hcut : cut? (quote raw) = some (meaning raw, []) := closeFrom_double (meaning raw) hend
  rw [denoted?, hcut]

namespace Datum

mutual

/-- What the literal of a classified value says, if the value has only days as dates. A text says
what is read from its literal. -/
def meaning? : Datum → Option Meaning
  | nullLiteral => some .null
  | boolLiteral b => some (.truth b)
  | dateLiteral (day d) => some (.text d.iso)
  | textLiteral t => (Literal.denoted? (Literal.quote t)).map .text
  | arrayLiteral items => (meanings? items).map .array
  | _ => none

/-- What the literals of classified values say, in order. -/
def meanings? : List Datum → Option (List Meaning)
  | [] => some []
  | x :: xs =>
    match x.meaning?, meanings? xs with
    | some n, some ns => some (n :: ns)
    | _, _ => none

end

/-- Holds of the values that are classified throughout, with days as dates. -/
inductive IsValueTree : Datum → Prop where
  | null : IsValueTree nullLiteral
  | truth (b : Bool) : IsValueTree (boolLiteral b)
  | date (d : Day) : IsValueTree (dateLiteral (day d))
  | text (t : Text) : IsValueTree (textLiteral t)
  | array {items : List Datum} (h : ∀ x ∈ items, IsValueTree x) : IsValueTree (arrayLiteral items)

section Limits

variable [Limits]

theorem formatAll_eq_writeAll {items : List Datum}
    (h : ∀ x ∈ items, ∃ n, x.meaning? = some n ∧ x.format = .ok n.write) :
    ∃ ns, meanings? items = some ns ∧ formatAll items = .ok (Meaning.writeAll ns) := by
  induction items with
  | nil => exact ⟨[], rfl, rfl⟩
  | cons x xs ih =>
      obtain ⟨n, hn, hx⟩ := h x List.mem_cons_self
      obtain ⟨ns, hns, hxs⟩ := ih fun y hy => h y (List.mem_cons_of_mem _ hy)
      refine ⟨n :: ns, ?_, ?_⟩
      · rw [meanings?, hn, hns]
      · rw [formatAll, hx, hxs, Meaning.writeAll]

theorem format_eq_write {u : Datum} (hu : u.IsValueTree) :
    ∃ n, u.meaning? = some n ∧ u.format = .ok n.write := by
  induction hu with
  | null => exact ⟨.null, rfl, rfl⟩
  | truth b => exact ⟨.truth b, rfl, rfl⟩
  | date d =>
      refine ⟨.text d.iso, rfl, ?_⟩
      rw [Meaning.write, ← formatDay_eq]
      rfl
  | text t =>
      refine ⟨.text (Literal.meaning t), ?_, rfl⟩
      rw [meaning?, Literal.denoted?_quote]
      rfl
  | array h ih =>
      obtain ⟨ns, hns, hformat⟩ := formatAll_eq_writeAll ih
      refine ⟨.array ns, ?_, ?_⟩
      · rw [meaning?, hns]
        rfl
      · rw [format, hformat, Meaning.write]

/-- **Rendered values are uniquely decodable.** Every value tree has a written form, and two of them
are written alike if and only if they say the same: the same truth values and texts, nested in the
same way. -/
theorem format_eq_format_iff {u v : Datum} (hu : u.IsValueTree) (hv : v.IsValueTree) :
    ∃ m n s t, u.meaning? = some m ∧ v.meaning? = some n ∧ u.format = .ok s ∧
      v.format = .ok t ∧ (s = t ↔ m = n) := by
  obtain ⟨m, hm, hs⟩ := format_eq_write hu
  obtain ⟨n, hn, ht⟩ := format_eq_write hv
  refine ⟨m, n, m.write, n.write, hm, hn, hs, ht, Meaning.write_injective, ?_⟩
  rintro rfl
  rfl

end Limits

/-- A text that looks like the end of an array, an array without items, and a day, against a text
that a caller quoted. -/
theorem format_eq_format_iff_nested :
    let u := arrayLiteral [textLiteral "it's],['".toText, arrayLiteral [],
      dateLiteral (day ⟨2024, 1, 2, by decide⟩)]
    let v := arrayLiteral [textLiteral "'it''s],['".toText, arrayLiteral [],
      textLiteral "\"2024-01-02\"".toText]
    u.IsValueTree ∧ v.IsValueTree ∧ u.format = .ok "['it''s],[',[],'2024-01-02']".toText ∧
      ∃ m n s t, u.meaning? = some m ∧ v.meaning? = some n ∧ u.format = .ok s ∧
        v.format = .ok t ∧ (s = t ↔ m = n) := by
  intro u v
  have hempty : (arrayLiteral []).IsValueTree := .array (by simp)
  have hu : u.IsValueTree := .array (by simpa using ⟨.text _, hempty, .date _⟩)
  have hv : v.IsValueTree := .array (by simpa using ⟨.text _, hempty, .text _⟩)
  exact ⟨hu, hv, by decide +kernel, format_eq_format_iff hu hv⟩

end Datum

end TrackerQuery
