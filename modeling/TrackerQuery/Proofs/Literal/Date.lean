import TrackerQuery.Proofs.Calendar.Moment
import TrackerQuery.Proofs.Datum.Limit
import TrackerQuery.Proofs.Literal.Meaning

/-!
# TrackerQuery.Proofs.Literal.Date

**Moments as dates**, alone and in sequences.

Classification makes the date of a moment with an offset from its day in universal time,
so what it makes is a function of the instant (`SameInstant.classify_eq`) and is missing
for instants outside the calendar. It goes through sequences item by item, which lifts both
facts to any depth: values that are the same up to how their instants are written classify
alike (`Pointwise.classify_eq`), and a value fails exactly if such a moment occurs in it, or a
number that has too many digits to be written (`exists_classify_eq_error_iff`).
`classify_sameInstant` puts this together.
-/

namespace TrackerQuery.Datum

section Limits

variable [Limits]

/-! ### Classification of sequences -/

theorem classify_of_sequence? {x : Datum} {items : List Datum} (h : x.sequence? = some items) :
    classify x = (classifyAll items).map arrayLiteral := by
  cases x
  case list xs =>
    obtain rfl := Option.some.inj h
    rw [classify]
    cases classifyAll xs <;> rfl
  case tuple xs =>
    obtain rfl := Option.some.inj h
    rw [classify]
    cases classifyAll xs <;> rfl
  all_goals cases h

/-- Holds of the values that are classified as their text, where the text cannot be written. -/
def IsOverlong (x : Datum) : Prop :=
  x.sequence? = none ∧ x.isLiteral = false ∧ ¬x.IsWritable

/-- Holds of a value that has no literal shape, and why: a moment that is on no day of the calendar,
or a value with a number that has too many digits. -/
inductive LacksShape : Datum → Fault → Prop where
  | moment {m : Moment} (h : m.utcDay? = none) : LacksShape (moment m) .dateOutOfRange
  | overlong {x : Datum} {f : Fault} (hx : x.IsOverlong) (hf : IsLongNumber f) : LacksShape x f

theorem classify_written (x : Datum) :
    (match x.written with
      | .ok t => .ok (textLiteral t)
      | .error f => .error f) = x.written.map fun _ => textLiteral x.toText := by
  cases h : x.written with
  | ok t => rw [(written_eq_ok.mp h).2]; rfl
  | error f => rfl

/-- Of the values that are no sequences and not classified yet, those that are no moments have a
shape if their text can be written. -/
theorem classify_eq_map_written {x : Datum} (hx : x.sequence? = none)
    (hliteral : x.isLiteral = false) (hmoment : ∀ m, x ≠ moment m) :
    ∃ l, classify x = x.written.map fun _ => l := by
  cases x
  case list => cases hx
  case tuple => cases hx
  case nullLiteral => cases hliteral
  case boolLiteral => cases hliteral
  case dateLiteral => cases hliteral
  case arrayLiteral => cases hliteral
  case textLiteral => cases hliteral
  case moment m => exact absurd rfl (hmoment m)
  case null => exact ⟨nullLiteral, rfl⟩
  case bool b => exact ⟨boolLiteral b, rfl⟩
  case day d => exact ⟨dateLiteral (day d), rfl⟩
  case int n => exact ⟨_, classify_written (int n)⟩
  case float x => exact ⟨_, classify_written (float x)⟩
  case text t => exact ⟨_, classify_written (text t)⟩
  case dict entries => exact ⟨_, classify_written (dict entries)⟩
  case sortItem item => exact ⟨_, classify_written (sortItem item)⟩
  case scheme s => exact ⟨_, classify_written (scheme s)⟩

theorem classify_of_isLiteral {x : Datum} (h : x.isLiteral = true) : classify x = .ok x := by
  cases x <;> first | rfl | cases h

/-- A value that is no sequence has a literal shape, or there is a reason why it has none. -/
theorem classify_cases {x : Datum} (hx : x.sequence? = none) :
    (∃ l, classify x = .ok l ∧ ∀ f, ¬LacksShape x f) ∨
      ∃ f, classify x = .error f ∧ LacksShape x f := by
  by_cases hmoment : ∃ m, x = moment m
  · obtain ⟨m, rfl⟩ := hmoment
    rw [classify, classifyMoment]
    cases hday : m.utcDay? with
    | none => exact .inr ⟨_, rfl, .moment hday⟩
    | some d =>
        refine .inl ⟨_, rfl, fun f hf => ?_⟩
        cases hf with
        | moment h => simp [hday] at h
        | overlong h => exact h.2.2 rfl
  · have hnone : ∀ m, x ≠ moment m := fun m h => hmoment ⟨m, h⟩
    cases hliteral : x.isLiteral with
    | true =>
        refine .inl ⟨x, classify_of_isLiteral hliteral, fun f hf => ?_⟩
        cases hf with
        | moment => cases hliteral
        | overlong h =>
            rw [h.2.1] at hliteral
            cases hliteral
    | false =>
        obtain ⟨l, hl⟩ := classify_eq_map_written hx hliteral hnone
        cases hw : x.written with
        | ok t =>
            refine .inl ⟨l, by rw [hl, hw]; rfl, fun f hf => ?_⟩
            cases hf with
            | moment => exact hnone _ rfl
            | overlong h => exact h.2.2 (written_eq_ok.mp hw).1
        | error f =>
            obtain ⟨hlong, hf⟩ := written_eq_error hw
            exact .inr ⟨f, by rw [hl, hw]; rfl, .overlong ⟨hx, hliteral, hlong⟩ hf⟩

theorem LacksShape.sequence?_eq_none {x : Datum} {f : Fault} (h : LacksShape x f) :
    x.sequence? = none := by
  cases h with
  | moment => rfl
  | overlong hx => exact hx.1

theorem classifyAll_cons_eq_ok {x : Datum} {xs ls : List Datum} :
    classifyAll (x :: xs) = .ok ls ↔
      ∃ l ls', classify x = .ok l ∧ classifyAll xs = .ok ls' ∧ ls = l :: ls' := by
  rw [classifyAll]
  cases classify x <;> cases classifyAll xs <;> simp [eq_comm]

theorem classifyAll_cons_eq_error {x : Datum} {xs : List Datum} {f : Fault} :
    classifyAll (x :: xs) = .error f ↔
      classify x = .error f ∨ ((∃ l, classify x = .ok l) ∧ classifyAll xs = .error f) := by
  rw [classifyAll]
  cases classify x <;> cases classifyAll xs <;> simp

theorem exists_of_classifyAll_eq_error {items : List Datum} {f : Fault}
    (h : classifyAll items = .error f) : ∃ x ∈ items, classify x = .error f := by
  induction items with
  | nil => cases h
  | cons x xs ih =>
      rcases classifyAll_cons_eq_error.mp h with hx | ⟨-, hxs⟩
      · exact ⟨x, List.mem_cons_self, hx⟩
      · obtain ⟨y, hy, hye⟩ := ih hxs
        exact ⟨y, List.mem_cons_of_mem x hy, hye⟩

theorem exists_of_mem_classifyAll {items ls : List Datum} (h : classifyAll items = .ok ls)
    {x : Datum} (hx : x ∈ items) : ∃ l, classify x = .ok l := by
  induction items generalizing ls with
  | nil => cases hx
  | cons y ys ih =>
      obtain ⟨l, ls', hy, hys, -⟩ := classifyAll_cons_eq_ok.mp h
      rcases List.mem_cons.mp hx with rfl | hmem
      · exact ⟨l, hy⟩
      · exact ih hys hmem

/-- A value fails for a reason that something in it has. -/
theorem exists_lacksShape_of_classify {x : Datum} {f : Fault} (h : classify x = .error f) :
    ∃ y, Occurs y x ∧ LacksShape y f := by
  induction x using sequence_induction with
  | step x ih =>
      cases hx : x.sequence? with
      | none =>
          obtain ⟨l, hl, -⟩ | ⟨e, he, hlacks⟩ := classify_cases hx
          · rw [hl] at h
            cases h
          · rw [he] at h
            cases h
            exact ⟨x, .self, hlacks⟩
      | some items =>
          rw [classify_of_sequence? hx] at h
          cases hall : classifyAll items with
          | ok ls =>
              rw [hall] at h
              cases h
          | error e =>
              rw [hall] at h
              cases h
              obtain ⟨y, hy, hye⟩ := exists_of_classifyAll_eq_error hall
              obtain ⟨z, hz, hlacks⟩ := ih items hx y hy hye
              exact ⟨z, .item hx hy hz, hlacks⟩

theorem classify_ne_ok_of_occurs {x y : Datum} {f : Fault} (h : Occurs y x) (hy : LacksShape y f)
    (l : Datum) : classify x ≠ .ok l := by
  induction h generalizing l with
  | self =>
      obtain ⟨-, -, hnone⟩ | ⟨e, he, -⟩ := classify_cases hy.sequence?_eq_none
      · exact absurd hy (hnone f)
      · rw [he]
        exact nofun
  | item hz hitem _ ih =>
      intro hl
      rw [classify_of_sequence? hz] at hl
      cases hall : classifyAll _ with
      | error e =>
          rw [hall] at hl
          cases hl
      | ok ls =>
          obtain ⟨k, hk⟩ := exists_of_mem_classifyAll hall hitem
          exact ih k hk

/-- A value has no literal shape exactly if something in it has none. -/
theorem exists_classify_eq_error_iff {x : Datum} :
    (∃ f, classify x = .error f) ↔ ∃ y f, Occurs y x ∧ LacksShape y f := by
  constructor
  · intro h
    obtain ⟨f, hf⟩ := h
    obtain ⟨y, hy, hlacks⟩ := exists_lacksShape_of_classify hf
    exact ⟨y, f, hy, hlacks⟩
  · intro h
    obtain ⟨y, f, hy, hlacks⟩ := h
    cases hx : classify x with
    | ok l => exact absurd hx (classify_ne_ok_of_occurs hy hlacks l)
    | error e => exact ⟨e, rfl⟩

mutual

/-- Classification goes through sequences item by item. -/
theorem Pointwise.classify_eq {R : Datum → Datum → Prop}
    (hR : ∀ x y, R x y → classify x = classify y) {x y : Datum} (h : Pointwise R x y) :
    classify x = classify y := by
  match h with
  | .item h => exact hR x y h
  | .sequence hx hy h =>
      rw [classify_of_sequence? hx, classify_of_sequence? hy, h.classifyAll_eq hR]

theorem PointwiseAll.classifyAll_eq {R : Datum → Datum → Prop}
    (hR : ∀ x y, R x y → classify x = classify y) {xs ys : List Datum} (h : PointwiseAll R xs ys) :
    classifyAll xs = classifyAll ys := by
  match h with
  | .nil => rfl
  | .cons h hs => rw [classifyAll, classifyAll, h.classify_eq hR, hs.classifyAll_eq hR]

end

/-! ### The day of an instant -/

/-- Holds of two moments with offsets that are the same instant, and of any two equal values. -/
inductive SameInstant : Datum → Datum → Prop where
  | moment {m m' : Moment} {o o' : Offset} (ho : m.offset = some o) (ho' : m'.offset = some o')
      (h : m.instant o = m'.instant o') : SameInstant (moment m) (moment m')
  | refl (x : Datum) : SameInstant x x

theorem SameInstant.classify_eq {x y : Datum} (h : SameInstant x y) : classify x = classify y := by
  cases h with
  | refl => rfl
  | @moment m m' o o' ho ho' h =>
      have hday : m.utcDay? = m'.utcDay? := by
        refine Option.ext fun d => ?_
        rw [Moment.utcDay?_eq_some_iff ho, Moment.utcDay?_eq_some_iff ho', h]
      rw [classify, classify, classifyMoment, classifyMoment, hday]

/-- Holds of a moment with an offset and the day that holds its instant, which is the local day or
a neighbour of it, and of a value in which no moment with an offset occurs and the value itself. -/
inductive ShownAs : Datum → Datum → Prop where
  | moment {m : Moment} {o : Offset} {d : Day} (ho : m.offset = some o)
      (hd : d.Holds (m.instant o)) (hnear : d = m.day ∨ d ⋖ m.day ∨ m.day ⋖ d) :
      ShownAs (moment m) (day d)
  | refl {x : Datum} (h : ∀ m, Occurs (.moment m) x → m.offset = none) : ShownAs x x

theorem ShownAs.classify_eq {x y : Datum} (h : ShownAs x y) : classify x = classify y := by
  cases h with
  | refl => rfl
  | moment ho hd =>
      rw [classify, classify, classifyMoment, (Moment.utcDay?_eq_some_iff ho).mpr hd]

omit [Limits] in
theorem exists_shownAs {x : Datum} (h : ∀ m, Occurs (moment m) x → m.IsWithinRange) :
    ∃ y, Pointwise ShownAs x y := by
  induction x using sequence_induction with
  | step x ih =>
      cases hx : x.sequence? with
      | some items =>
          obtain ⟨ys, hys⟩ := exists_pointwiseAll fun y hy =>
            ih items hx y hy fun m hm => h m (.item hx hy hm)
          exact ⟨list ys, .sequence hx rfl hys⟩
      | none =>
          by_cases hnone : ∀ m, Occurs (moment m) x → m.offset = none
          · exact ⟨x, .item (.refl hnone)⟩
          · push Not at hnone
            obtain ⟨m, hm, hoffset⟩ := hnone
            obtain ⟨o, ho⟩ := Option.ne_none_iff_exists'.mp hoffset
            obtain ⟨d, hd⟩ := Moment.exists_utcDay? (h m hm)
            rw [← hm.eq_of_sequence?_eq_none hx]
            exact ⟨day d, .item (.moment ho ((Moment.utcDay?_eq_some_iff ho).mp hd)
              (Moment.neighbour_of_utcDay? ho hd))⟩

theorem exists_occurs_lacksShape_iff {x : Datum} :
    (∃ y f, Occurs y x ∧ LacksShape y f) ↔
      (∃ m, Occurs (moment m) x ∧ ¬m.IsWithinRange) ∨ ∃ z, Occurs z x ∧ z.IsOverlong := by
  constructor
  · intro h
    obtain ⟨y, f, hy, hlacks⟩ := h
    cases hlacks with
    | moment hday => exact .inl ⟨_, hy, Moment.utcDay?_eq_none_iff.mp hday⟩
    | overlong hlong => exact .inr ⟨y, hy, hlong⟩
  · intro h
    obtain ⟨m, hm, hout⟩ | ⟨z, hz, hlong⟩ := h
    · exact ⟨_, _, hm, .moment (Moment.utcDay?_eq_none_iff.mpr hout)⟩
    · cases hw : z.written with
      | ok t => exact absurd (written_eq_ok.mp hw).1 hlong.2.2
      | error f => exact ⟨z, f, hz, .overlong hlong (written_eq_error hw).2⟩

/-- **The day of a moment with an offset depends on its instant alone.** Two values that differ only
in the clock and the offset by which they write the same instants classify alike. They fail exactly
if an instant that is not on the calendar occurs in them, or a number with too many digits, and the
fault says which. Otherwise they classify as the value in which each moment with an offset is
replaced by the day that holds its instant, and that day is the local day or a neighbour of it. -/
theorem classify_sameInstant {x y : Datum} (h : Pointwise SameInstant x y) :
    classify x = classify y ∧
      ((∃ f, classify x = .error f) ↔
        (∃ m, Occurs (moment m) x ∧ ¬m.IsWithinRange) ∨ ∃ z, Occurs z x ∧ z.IsOverlong) ∧
      (∀ f, classify x = .error f →
        (f = .dateOutOfRange ∧ ∃ m, Occurs (moment m) x ∧ ¬m.IsWithinRange) ∨
          (IsLongNumber f ∧ ∃ z, Occurs z x ∧ z.IsOverlong)) ∧
      ∀ l, classify x = .ok l → ∃ z, Pointwise ShownAs x z ∧ classify z = .ok l := by
  refine ⟨h.classify_eq fun _ _ => SameInstant.classify_eq,
    exists_classify_eq_error_iff.trans exists_occurs_lacksShape_iff, ?_, ?_⟩
  · intro f hf
    obtain ⟨y, hy, hlacks⟩ := exists_lacksShape_of_classify hf
    cases hlacks with
    | moment hday => exact .inl ⟨rfl, _, hy, Moment.utcDay?_eq_none_iff.mp hday⟩
    | overlong hlong hf => exact .inr ⟨hf, y, hy, hlong⟩
  · intro l hl
    have hrange : ∀ m, Occurs (moment m) x → m.IsWithinRange := by
      intro m hm
      by_contra hout
      exact classify_ne_ok_of_occurs hm (.moment (Moment.utcDay?_eq_none_iff.mpr hout)) l hl
    obtain ⟨z, hz⟩ := exists_shownAs hrange
    exact ⟨z, hz, (hz.classify_eq fun _ _ => ShownAs.classify_eq).symm.trans hl⟩

end Limits

/-- Half an hour before midnight on a 29th of February, five hours behind, is a morning of the
first of March, five and a half hours ahead. -/
theorem classify_sameInstant_leap :
    let behind : Offset := ⟨-18000000000, by decide⟩
    let ahead : Offset := ⟨19800000000, by decide⟩
    let march : Day := ⟨2024, 3, 1, by decide⟩
    let m : Moment := ⟨⟨2024, 2, 29, by decide⟩, ⟨23, 30, 0, 0, by decide⟩, some behind⟩
    let m' : Moment := ⟨march, ⟨10, 0, 0, 0, by decide⟩, some ahead⟩
    let x := list [null, tuple [moment m]]
    let y := list [null, tuple [moment m']]
    Pointwise SameInstant x y ∧ classify x = classify y ∧
      classify x = .ok (arrayLiteral [nullLiteral, arrayLiteral [dateLiteral (day march)]]) := by
  intro behind ahead march m m' x y
  have hinstant : m.instant behind = m'.instant ahead := by decide +kernel
  have hmoment : SameInstant (moment m) (moment m') := .moment rfl rfl hinstant
  have hsame : Pointwise SameInstant x y :=
    .sequence rfl rfl (.cons (.item (.refl null)) (.cons
      (.sequence rfl rfl (.cons (.item hmoment) .nil)) .nil))
  have hday : m.utcDay? = some march := by decide +kernel
  refine ⟨hsame, (classify_sameInstant hsame).1, ?_⟩
  simp only [x, classify, classifyAll, classifyMoment, hday]

end TrackerQuery.Datum
