import TrackerQuery.Datum.Basic

/-!
# TrackerQuery.Proofs.Datum.Nesting

Values that stand **in one another**.

Lists and tuples are the sequences that values are nested by: what a caller means by a
value, they mean by it in a list as well. `Pointwise R` lifts a relation of two values to
everything that is put together from related values by sequences. A property of nested
values is proved by `sequence_induction`.

An array literal nests values as well, but what stands in it is not classified any further.
So the parts of a value are those of the sequences and of array literals (`parts?`), and
`parts_induction` goes through both.
-/

namespace TrackerQuery.Datum

/-- The items of a list, a tuple or an array literal. -/
def parts? : Datum → Option (List Datum)
  | list items => some items
  | tuple items => some items
  | arrayLiteral items => some items
  | _ => none

/-- The items of a list or a tuple. -/
def sequence? : Datum → Option (List Datum)
  | list items => some items
  | tuple items => some items
  | _ => none

theorem parts?_of_sequence? {x : Datum} {items : List Datum} (h : x.sequence? = some items) :
    x.parts? = some items := by
  cases x
  case list xs => exact h
  case tuple xs => exact h
  all_goals cases h

/-- What has parts is a sequence or an array literal. -/
theorem parts?_cases {x : Datum} {items : List Datum} (h : x.parts? = some items) :
    x.sequence? = some items ∨ x = arrayLiteral items := by
  cases x
  case list xs => exact Or.inl h
  case tuple xs => exact Or.inl h
  case arrayLiteral xs => exact Or.inr (congrArg arrayLiteral (Option.some.inj h))
  all_goals cases h

mutual

/-- A property of all values, if a value has it whenever its parts have it. -/
theorem parts_induction {motive : Datum → Prop}
    (step : ∀ x, (∀ items, x.parts? = some items → ∀ y ∈ items, motive y) → motive x)
    (x : Datum) : motive x := by
  refine step x fun items h => ?_
  cases x
  case list xs => exact Option.some.inj h ▸ parts_induction_all step xs
  case tuple xs => exact Option.some.inj h ▸ parts_induction_all step xs
  case arrayLiteral xs => exact Option.some.inj h ▸ parts_induction_all step xs
  all_goals cases h

theorem parts_induction_all {motive : Datum → Prop}
    (step : ∀ x, (∀ items, x.parts? = some items → ∀ y ∈ items, motive y) → motive x)
    (items : List Datum) : ∀ y ∈ items, motive y := by
  cases items with
  | nil => simp
  | cons x xs =>
      rw [List.forall_mem_cons]
      exact ⟨parts_induction step x, parts_induction_all step xs⟩

end

/-- A property of all values, if a value has it whenever the items of a sequence have it. -/
theorem sequence_induction {motive : Datum → Prop}
    (step : ∀ x, (∀ items, x.sequence? = some items → ∀ y ∈ items, motive y) → motive x)
    (x : Datum) : motive x :=
  parts_induction (fun x ih => step x fun items h => ih items (parts?_of_sequence? h)) x

/-- Holds of a value and what stands in it, at any depth of sequences. -/
inductive Occurs (x : Datum) : Datum → Prop where
  | self : Occurs x x
  | item {y z : Datum} {items : List Datum} (hz : z.sequence? = some items) (hy : y ∈ items)
      (h : Occurs x y) : Occurs x z

theorem Occurs.eq_of_sequence?_eq_none {x y : Datum} (h : Occurs x y)
    (hy : y.sequence? = none) : x = y := by
  cases h with
  | self => rfl
  | item hz => simp [hz] at hy

/-- Holds of a value and what is reached from it through lists, tuples and array literals. -/
inductive IsWithin (x : Datum) : Datum → Prop where
  | self : IsWithin x x
  | part {y z : Datum} {items : List Datum} (hz : z.parts? = some items) (hy : y ∈ items)
      (h : IsWithin x y) : IsWithin x z

theorem IsWithin.eq_of_parts?_eq_none {x z : Datum} (h : IsWithin x z) (hz : z.parts? = none) :
    x = z := by
  cases h with
  | self => rfl
  | part hz' => simp [hz] at hz'

theorem isWithin_iff_of_parts? {x z : Datum} {items : List Datum} (hz : z.parts? = some items) :
    IsWithin x z ↔ x = z ∨ ∃ y ∈ items, IsWithin x y := by
  constructor
  · intro h
    cases h with
    | self => exact Or.inl rfl
    | part hz' hy h =>
        obtain rfl := Option.some.inj (hz.symm.trans hz')
        exact Or.inr ⟨_, hy, h⟩
  · rintro (rfl | ⟨y, hy, h⟩)
    · exact .self
    · exact .part hz hy h

mutual

/-- Holds of two values that are related, and of two sequences that are related item by item, at
any depth. -/
inductive Pointwise (R : Datum → Datum → Prop) : Datum → Datum → Prop where
  | item {x y : Datum} (h : R x y) : Pointwise R x y
  | sequence {x y : Datum} {xs ys : List Datum} (hx : x.sequence? = some xs)
      (hy : y.sequence? = some ys) (h : PointwiseAll R xs ys) : Pointwise R x y

/-- Holds of two lists of values that are related item by item. -/
inductive PointwiseAll (R : Datum → Datum → Prop) : List Datum → List Datum → Prop where
  | nil : PointwiseAll R [] []
  | cons {x y : Datum} {xs ys : List Datum} (h : Pointwise R x y) (hs : PointwiseAll R xs ys) :
      PointwiseAll R (x :: xs) (y :: ys)

end

theorem exists_pointwiseAll {R : Datum → Datum → Prop} {xs : List Datum}
    (h : ∀ x ∈ xs, ∃ y, Pointwise R x y) : ∃ ys, PointwiseAll R xs ys := by
  induction xs with
  | nil => exact ⟨[], .nil⟩
  | cons x xs ih =>
      rw [List.forall_mem_cons] at h
      obtain ⟨⟨y, hy⟩, hxs⟩ := h
      obtain ⟨ys, hys⟩ := ih hxs
      exact ⟨y :: ys, .cons hy hys⟩

end TrackerQuery.Datum
