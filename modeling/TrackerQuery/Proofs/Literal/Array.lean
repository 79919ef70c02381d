import TrackerQuery.Proofs.Literal.BuiltDate

/-!
# TrackerQuery.Proofs.Literal.Array

**Arrays that a caller has built**, among lists and tuples.

Classification goes through lists and tuples and stops at an array literal, while rendering
goes through array literals and stops at everything that is not classified. So a value has a
text unless an item of some array literal in it is not classified, at whatever depth, and the
first such item in reading order is the one that is reported (`reports_format_of_classify`).
Where there is none, an array literal is classified as the list of its items would be
(`classify_of_parts?`), so that it does not matter which of the three a sequence is given
as (`SameParts.classify_eq`).

Main statement: `formatRaw_total`.
-/

namespace TrackerQuery.Datum

/-! ### Items of arrays -/

mutual

/-- The items of the array literals that are reached from a value, depth first and in order: each
item stands in front of those that are reached from it. -/
def arrayItems : Datum → List Datum
  | list items => arrayItemsAll items
  | tuple items => arrayItemsAll items
  | arrayLiteral items => memberItems items
  | _ => []

/-- The items of the array literals that are reached from values. -/
def arrayItemsAll : List Datum → List Datum
  | [] => []
  | x :: xs => arrayItems x ++ arrayItemsAll xs

/-- The items of an array literal, each with those that are reached from it. -/
def memberItems : List Datum → List Datum
  | [] => []
  | x :: xs => x :: arrayItems x ++ memberItems xs

end

theorem arrayItems_of_sequence? {x : Datum} {items : List Datum} (h : x.sequence? = some items) :
    arrayItems x = arrayItemsAll items := by
  cases x
  case list xs => rw [arrayItems, Option.some.inj h]
  case tuple xs => rw [arrayItems, Option.some.inj h]
  all_goals cases h

theorem arrayItems_of_leaf {x : Datum} (h : x.parts? = none) : arrayItems x = [] := by
  cases x
  case list xs => cases h
  case tuple xs => cases h
  case arrayLiteral xs => cases h
  all_goals rfl

theorem mem_arrayItemsAll {d : Datum} {items : List Datum} :
    d ∈ arrayItemsAll items ↔ ∃ y ∈ items, d ∈ arrayItems y := by
  induction items with
  | nil => simp [arrayItemsAll]
  | cons x xs ih => rw [arrayItemsAll, List.mem_append, ih, List.exists_mem_cons_iff]

theorem mem_memberItems {d : Datum} {items : List Datum} :
    d ∈ memberItems items ↔ d ∈ items ∨ ∃ y ∈ items, d ∈ arrayItems y := by
  induction items with
  | nil => simp [memberItems]
  | cons x xs ih =>
      rw [memberItems, List.mem_append, List.mem_cons, ih, List.mem_cons, List.exists_mem_cons_iff]
      tauto

/-- The listed values are the items of the array literals that are reached. -/
theorem mem_arrayItems_iff {d x : Datum} :
    d ∈ arrayItems x ↔ ∃ items, IsWithin (arrayLiteral items) x ∧ d ∈ items := by
  induction x using parts_induction with
  | step x ih =>
      cases hx : x.parts? with
      | none =>
          rw [arrayItems_of_leaf hx]
          refine iff_of_false List.not_mem_nil ?_
          rintro ⟨items, hitems, -⟩
          rw [← hitems.eq_of_parts?_eq_none hx] at hx
          cases hx
      | some items =>
          have hdeeper : (∃ y ∈ items, d ∈ arrayItems y) ↔
              ∃ inner, (∃ y ∈ items, IsWithin (arrayLiteral inner) y) ∧ d ∈ inner := by
            constructor
            · rintro ⟨y, hy, hd⟩
              obtain ⟨inner, hinner, hd⟩ := (ih items hx y hy).mp hd
              exact ⟨inner, ⟨y, hy, hinner⟩, hd⟩
            · rintro ⟨inner, ⟨y, hy, hinner⟩, hd⟩
              exact ⟨y, hy, (ih items hx y hy).mpr ⟨inner, hinner, hd⟩⟩
          simp only [isWithin_iff_of_parts? hx, or_and_right, exists_or, ← hdeeper]
          rcases parts?_cases hx with hsequence | rfl
          · have hother : ¬∃ inner, arrayLiteral inner = x ∧ d ∈ inner := by
              rintro ⟨inner, rfl, -⟩
              cases hsequence
            rw [arrayItems_of_sequence? hsequence, mem_arrayItemsAll, or_iff_right hother]
          · rw [arrayItems, mem_memberItems]
            simp

/-! ### What is not classified -/

/-- The first of some values that is not classified. -/
def firstUnclassified? (items : List Datum) : Option Datum :=
  items.find? fun d => !d.isLiteral

theorem firstUnclassified?_append (items more : List Datum) :
    firstUnclassified? (items ++ more) =
      (firstUnclassified? items).or (firstUnclassified? more) :=
  List.find?_append

/-- Holds of a result that reports the given value as unclassified, and of one without a fault if no
value is given. -/
def Reports {α : Type} : Option Datum → Except Fault α → Prop
  | some d, r => r = .error (.unclassified d.inspect)
  | none, r => ∃ a, r = .ok a

theorem Reports.eq_error {α : Type} {d : Datum} {r : Except Fault α} (h : Reports (some d) r) :
    r = .error (.unclassified d.inspect) :=
  h

section Limits

variable [Limits]

theorem Reports.formatAll_cons {o o' : Option Datum} {x : Datum} {xs : List Datum}
    (hx : Reports o (format x)) (hxs : Reports o' (formatAll xs)) :
    Reports (o.or o') (formatAll (x :: xs)) := by
  rw [formatAll]
  cases o with
  | some d =>
      rw [hx.eq_error]
      rfl
  | none =>
      obtain ⟨t, ht⟩ := hx
      rw [ht]
      cases o' with
      | some d =>
          rw [hxs.eq_error]
          rfl
      | none =>
          obtain ⟨ts, hts⟩ := hxs
          rw [hts]
          exact ⟨t :: ts, rfl⟩

theorem Reports.format_array {o : Option Datum} {items : List Datum}
    (h : Reports o (formatAll items)) : Reports o (format (arrayLiteral items)) := by
  rw [format]
  cases o with
  | some d =>
      rw [h.eq_error]
      rfl
  | none =>
      obtain ⟨ts, hts⟩ := h
      rw [hts]
      exact ⟨_, rfl⟩

end Limits

/-! ### Rendering what was classified -/

/-- Holds of the values that are nested by lists, tuples and array literals from values that have a
day if they are dates: moments on the calendar, and date literals of days. -/
inductive HasDays : Datum → Prop where
  | leaf {x : Datum} (hx : x.parts? = none) (hmoment : ∀ m, x = moment m → m.IsWithinRange)
      (hdate : ∀ value, x = dateLiteral value → ∃ d, literalDay value = .ok d) : HasDays x
  | parts {x : Datum} {items : List Datum} (hx : x.parts? = some items)
      (h : ∀ y ∈ items, HasDays y) : HasDays x

theorem HasDays.of_parts? {x y : Datum} {items : List Datum} (h : HasDays x)
    (hx : x.parts? = some items) (hy : y ∈ items) : HasDays y := by
  cases h with
  | leaf hx' => simp [hx] at hx'
  | parts hx' h =>
      obtain rfl := Option.some.inj (hx.symm.trans hx')
      exact h y hy

theorem HasDays.isWithinRange {x : Datum} (h : HasDays x) {m : Moment}
    (hm : Occurs (moment m) x) : m.IsWithinRange := by
  induction hm with
  | self =>
      cases h with
      | leaf hx hmoment => exact hmoment m rfl
      | parts hx => cases hx
  | item hz hy _ ih => exact ih (h.of_parts? (parts?_of_sequence? hz) hy)

theorem firstUnclassified?_cons_of_isLiteral {x : Datum} (h : x.isLiteral = true)
    (items : List Datum) : firstUnclassified? (x :: items) = firstUnclassified? items :=
  List.find?_cons_of_neg (by simp [h])

theorem not_isLiteral_of_sequence? {x : Datum} {items : List Datum}
    (h : x.sequence? = some items) : x.isLiteral = false := by
  cases x <;> first | rfl | cases h

section Limits

variable [Limits]

theorem exists_format_of_written {x l : Datum}
    (h : (match x.written with
      | .ok t => .ok (textLiteral t)
      | .error f => .error f) = Except.ok l) : ∃ t, format l = .ok t := by
  split at h
  · cases h
    exact ⟨_, rfl⟩
  · cases h

theorem exists_format_of_leaf {x l : Datum} (h : HasDays x) (hx : x.parts? = none)
    (hl : classify x = .ok l) : ∃ t, format l = .ok t := by
  have hdate : ∀ value, x = dateLiteral value → ∃ d, literalDay value = .ok d := by
    cases h with
    | leaf _ _ hdate => exact hdate
    | parts hx' => simp [hx] at hx'
  cases x
  case list => cases hx
  case tuple => cases hx
  case arrayLiteral => cases hx
  case moment m =>
    rw [classify, classifyMoment] at hl
    split at hl
    · cases hl
      exact ⟨_, rfl⟩
    · cases hl
  case dateLiteral value =>
    cases hl
    obtain ⟨d, hd⟩ := hdate value rfl
    exact ⟨formatDay d, format_date_eq_ok.mpr ⟨d, hd, rfl⟩⟩
  case null | bool | day | nullLiteral | boolLiteral | textLiteral =>
    obtain rfl := Except.ok.inj hl
    exact ⟨_, rfl⟩
  -- everything else becomes the literal of its text
  case int n => exact exists_format_of_written (x := int n) hl
  case float y => exact exists_format_of_written (x := float y) hl
  case text t => exact exists_format_of_written (x := text t) hl
  case dict entries => exact exists_format_of_written (x := dict entries) hl
  case sortItem item => exact exists_format_of_written (x := sortItem item) hl
  case scheme s => exact exists_format_of_written (x := scheme s) hl

theorem reports_formatAll {items : List Datum}
    (h : ∀ y ∈ items, Reports (firstUnclassified? (y :: arrayItems y)) (format y)) :
    Reports (firstUnclassified? (memberItems items)) (formatAll items) := by
  induction items with
  | nil => exact ⟨[], rfl⟩
  | cons x xs ih =>
      obtain ⟨hx, hxs⟩ := List.forall_mem_cons.mp h
      rw [memberItems, firstUnclassified?_append]
      exact hx.formatAll_cons (ih hxs)

/-- Rendering reports the first value that is not classified, of the value itself and the items that
are reached from it. -/
theorem reports_format {x : Datum} (h : HasDays x) (hw : x.IsWritable) :
    Reports (firstUnclassified? (x :: arrayItems x)) (format x) := by
  induction x using parts_induction with
  | step x ih =>
      cases hliteral : x.isLiteral with
      | false =>
          have hfirst : firstUnclassified? (x :: arrayItems x) = some x :=
            List.find?_cons_of_pos (by simp [hliteral])
          rw [hfirst]
          show format x = _
          rw [format_of_not_isLiteral hliteral, shown_of_isWritable hw]
      | true =>
          rw [firstUnclassified?_cons_of_isLiteral hliteral]
          cases hx : x.parts? with
          | none =>
              rw [arrayItems_of_leaf hx]
              exact exists_format_of_leaf h hx (classify_of_isLiteral hliteral)
          | some items =>
              rcases parts?_cases hx with hsequence | rfl
              · rw [not_isLiteral_of_sequence? hsequence] at hliteral
                cases hliteral
              · rw [arrayItems]
                refine (reports_formatAll fun y hy => ?_).format_array
                exact ih items hx y hy (h.of_parts? hx hy) (hw.of_parts? hx hy)

theorem reports_formatAll_of_classifyAll {items ls : List Datum}
    (h : ∀ y ∈ items, ∀ l, classify y = .ok l →
      Reports (firstUnclassified? (arrayItems y)) (format l))
    (hls : classifyAll items = .ok ls) :
    Reports (firstUnclassified? (arrayItemsAll items)) (formatAll ls) := by
  induction items generalizing ls with
  | nil =>
      cases hls
      exact ⟨[], rfl⟩
  | cons x xs ih =>
      obtain ⟨hx, hxs⟩ := List.forall_mem_cons.mp h
      obtain ⟨l, ls', hl, hls', rfl⟩ := classifyAll_cons_eq_ok.mp hls
      rw [arrayItemsAll, firstUnclassified?_append]
      exact (hx l hl).formatAll_cons (ih hxs hls')

/-- Rendering what a value is classified as reports the first item of an array literal in the value
that is not classified. -/
theorem reports_format_of_classify {x l : Datum} (h : HasDays x) (hw : x.IsWritable)
    (hl : classify x = .ok l) :
    Reports (firstUnclassified? (arrayItems x)) (format l) := by
  induction x using parts_induction generalizing l with
  | step x ih =>
      cases hx : x.parts? with
      | none =>
          rw [arrayItems_of_leaf hx]
          exact exists_format_of_leaf h hx hl
      | some items =>
          rcases parts?_cases hx with hsequence | rfl
          · rw [arrayItems_of_sequence? hsequence]
            rw [classify_of_sequence? hsequence] at hl
            cases hls : classifyAll items with
            | error f =>
                rw [hls] at hl
                cases hl
            | ok ls =>
                rw [hls] at hl
                cases hl
                have hitems : ∀ y ∈ items, ∀ l, classify y = .ok l →
                    Reports (firstUnclassified? (arrayItems y)) (format l) :=
                  fun y hy _ => ih items hx y hy (h.of_parts? hx hy) (hw.of_parts? hx hy)
                exact (reports_formatAll_of_classifyAll hitems hls).format_array
          · cases hl
            have hreports := reports_format h hw
            rwa [firstUnclassified?_cons_of_isLiteral rfl] at hreports

theorem reports_formatRaw {x : Datum} (h : HasDays x) (hw : x.IsWritable) :
    Reports (firstUnclassified? (arrayItems x)) (formatRaw x) := by
  rw [formatRaw]
  cases hl : classify x with
  | ok l => exact reports_format_of_classify h hw hl
  | error f =>
      obtain ⟨y, hy, hlacks⟩ := exists_lacksShape_of_classify hl
      cases hlacks with
      | moment hday => exact absurd (h.isWithinRange hy) (Moment.utcDay?_eq_none_iff.mp hday)
      | overlong hlong => exact absurd (hw.of_occurs hy) hlong.2.2

end Limits

/-! ### Sequences of either kind -/

/-- Holds of a value in which array literals have classified items only. -/
def HoldsLiterals (x : Datum) : Prop :=
  ∀ items, IsWithin (arrayLiteral items) x → ∀ d ∈ items, d.isLiteral = true

theorem HoldsLiterals.of_parts? {x y : Datum} {items : List Datum} (h : HoldsLiterals x)
    (hx : x.parts? = some items) (hy : y ∈ items) : HoldsLiterals y :=
  fun inner hinner => h inner (.part hx hy hinner)

theorem firstUnclassified?_eq_none_iff {x : Datum} :
    firstUnclassified? (arrayItems x) = none ↔ HoldsLiterals x := by
  simp only [firstUnclassified?, List.find?_eq_none, mem_arrayItems_iff, Bool.not_eq_true',
    Bool.not_eq_false]
  constructor
  · intro h items hitems d hd
    exact h d ⟨items, hitems, hd⟩
  · rintro h d ⟨items, hitems, hd⟩
    exact h items hitems d hd

section Limits

variable [Limits]

theorem classifyAll_of_isLiteral {items : List Datum} (h : ∀ d ∈ items, d.isLiteral = true) :
    classifyAll items = .ok items := by
  induction items with
  | nil => rfl
  | cons x xs ih =>
      obtain ⟨hx, hxs⟩ := List.forall_mem_cons.mp h
      exact classifyAll_cons_eq_ok.mpr ⟨x, xs, classify_of_isLiteral hx, ih hxs, rfl⟩

/-- An array literal of classified items is classified as a sequence of these items is. -/
theorem classify_of_parts? {x : Datum} {items : List Datum} (hx : x.parts? = some items)
    (h : HoldsLiterals x) : classify x = (classifyAll items).map arrayLiteral := by
  rcases parts?_cases hx with hsequence | rfl
  · exact classify_of_sequence? hsequence
  · rw [classifyAll_of_isLiteral (h items .self)]
    rfl

mutual

/-- Holds of two values that are nested alike, each level by any of the three, from values without
parts that are classified alike. -/
inductive SameParts : Datum → Datum → Prop where
  | leaf {x y : Datum} (hx : x.parts? = none) (hy : y.parts? = none)
      (h : classify x = classify y) : SameParts x y
  | parts {x y : Datum} {xs ys : List Datum} (hx : x.parts? = some xs) (hy : y.parts? = some ys)
      (h : SamePartsAll xs ys) : SameParts x y

/-- Holds of two lists of values that are nested alike item by item. -/
inductive SamePartsAll : List Datum → List Datum → Prop where
  | nil : SamePartsAll [] []
  | cons {x y : Datum} {xs ys : List Datum} (h : SameParts x y) (hs : SamePartsAll xs ys) :
      SamePartsAll (x :: xs) (y :: ys)

end

mutual

theorem SameParts.classify_eq {x y : Datum} (h : SameParts x y) (hx : HoldsLiterals x)
    (hy : HoldsLiterals y) : classify x = classify y := by
  match h with
  | .leaf _ _ h => exact h
  | .parts hxs hys h =>
      rw [classify_of_parts? hxs hx, classify_of_parts? hys hy,
        h.classifyAll_eq (fun _ => hx.of_parts? hxs) (fun _ => hy.of_parts? hys)]

theorem SamePartsAll.classifyAll_eq {xs ys : List Datum} (h : SamePartsAll xs ys)
    (hxs : ∀ x ∈ xs, HoldsLiterals x) (hys : ∀ y ∈ ys, HoldsLiterals y) :
    classifyAll xs = classifyAll ys := by
  match h with
  | .nil => rfl
  | .cons h hs =>
      obtain ⟨hx, hxs⟩ := List.forall_mem_cons.mp hxs
      obtain ⟨hy, hys⟩ := List.forall_mem_cons.mp hys
      rw [classifyAll, classifyAll, h.classify_eq hx hy, hs.classifyAll_eq hxs hys]

end

/-! ### Main statement -/

/-- **A value has a text unless an array literal in it has an item that is not classified**, given
that its numbers can be written. The first such item, depth first and in order, is the one that is
reported. Otherwise there is a text, and it is the same whether each sequence in the value is given
as a list, a tuple or an array literal of classified items. -/
theorem formatRaw_total {x : Datum} (h : HasDays x) (hw : x.IsWritable) :
    ((∃ f, formatRaw x = .error f) ↔
      ∃ items, IsWithin (arrayLiteral items) x ∧ ∃ d ∈ items, d.isLiteral = false) ∧
    (∀ f, formatRaw x = .error f ↔
      ∃ d, firstUnclassified? (arrayItems x) = some d ∧ f = .unclassified d.inspect) ∧
    (HoldsLiterals x → ∃ t, formatRaw x = .ok t ∧
      ∀ y, SameParts x y → HoldsLiterals y → formatRaw y = .ok t) := by
  have hreports := reports_formatRaw h hw
  have hreported : ∀ f, formatRaw x = .error f ↔
      ∃ d, firstUnclassified? (arrayItems x) = some d ∧ f = .unclassified d.inspect := by
    intro f
    cases hfirst : firstUnclassified? (arrayItems x) with
    | some d =>
        rw [hfirst] at hreports
        simp [hreports.eq_error, eq_comm]
    | none =>
        rw [hfirst] at hreports
        obtain ⟨t, ht⟩ := hreports
        simp [ht]
  refine ⟨?_, hreported, fun hliterals => ?_⟩
  · have hexists : (∃ items, IsWithin (arrayLiteral items) x ∧ ∃ d ∈ items, d.isLiteral = false) ↔
        ¬HoldsLiterals x := by
      simp [HoldsLiterals]
    rw [hexists, ← firstUnclassified?_eq_none_iff, ← ne_eq, Option.ne_none_iff_exists']
    simp only [hreported]
    constructor
    · rintro ⟨f, d, hd, -⟩
      exact ⟨d, hd⟩
    · rintro ⟨d, hd⟩
      exact ⟨_, d, hd, rfl⟩
  · rw [firstUnclassified?_eq_none_iff.mpr hliterals] at hreports
    obtain ⟨t, ht⟩ := hreports
    refine ⟨t, ht, fun y hy hy' => ?_⟩
    rw [← ht, formatRaw, formatRaw, hy.classify_eq hliterals hy']

end Limits

/-- A tuple and an array literal in a list have the text of three array literals. An unclassified
number in an inner array literal is reported, and not the list behind it. -/
theorem formatRaw_total_nested :
    let built := arrayLiteral [boolLiteral true, arrayLiteral []]
    let x := list [text ['a'], tuple [int 1, null], built]
    let y := arrayLiteral [textLiteral ['a'], arrayLiteral [textLiteral ['1'], nullLiteral], built]
    let unclassified := list [text ['a'], arrayLiteral [arrayLiteral [int 5], list []]]
    HasDays x ∧ x.IsWritable ∧ HoldsLiterals x ∧
      formatRaw x = .ok "['a',['1',null],[true,[]]]".toText ∧
      SameParts x y ∧ HoldsLiterals y ∧ formatRaw y = formatRaw x ∧
      HasDays unclassified ∧ unclassified.IsWritable ∧
        formatRaw unclassified = .error (.unclassified (int 5).inspect) := by
  intro built x y unclassified
  have hleaf : HasDays (text ['a']) ∧ HasDays (int 1) ∧ HasDays null ∧
      HasDays (boolLiteral true) ∧ HasDays (int 5) := by
    refine ⟨?_, ?_, ?_, ?_, ?_⟩ <;> exact .leaf rfl (by rintro _ ⟨⟩) (by rintro _ ⟨⟩)
  obtain ⟨ha, hone, hnull, htrue, hfive⟩ := hleaf
  have hx : HasDays x := by
    have hempty : HasDays (arrayLiteral []) := .parts rfl (by simp)
    have hbuilt : HasDays built := .parts rfl (by simp [htrue, hempty])
    have hpair : HasDays (tuple [int 1, null]) := .parts rfl (by simp [hone, hnull])
    exact .parts rfl (by simp [ha, hpair, hbuilt])
  have hunclassified : HasDays unclassified := by
    have hinner : HasDays (arrayLiteral [int 5]) := .parts rfl (by simp [hfive])
    have hlist : HasDays (list []) := .parts rfl (by simp)
    have houter : HasDays (arrayLiteral [arrayLiteral [int 5], list []]) :=
      .parts rfl (by simp [hinner, hlist])
    exact .parts rfl (by simp [ha, houter])
  have hliterals : HoldsLiterals x := firstUnclassified?_eq_none_iff.mp rfl
  have hliterals' : HoldsLiterals y := firstUnclassified?_eq_none_iff.mp rfl
  have hsame : SameParts x y :=
    .parts rfl rfl (.cons (.leaf rfl rfl rfl) (.cons (.parts rfl rfl
      (.cons (.leaf rfl rfl rfl) (.cons (.leaf rfl rfl rfl) .nil))) (.cons (.parts rfl rfl
        (.cons (.leaf rfl rfl rfl) (.cons (.parts rfl rfl .nil) .nil))) .nil)))
  have hwritable : x.IsWritable := by decide +kernel
  have hwritable' : unclassified.IsWritable := by decide +kernel
  obtain ⟨-, -, htext⟩ := formatRaw_total hx hwritable
  obtain ⟨t, ht, hall⟩ := htext hliterals
  obtain ⟨-, hreported, -⟩ := formatRaw_total hunclassified hwritable'
  exact ⟨hx, hwritable, hliterals, rfl, hsame, hliterals', (hall y hsame hliterals').trans ht.symm,
    hunclassified, hwritable', (hreported _).mpr ⟨int 5, rfl, rfl⟩⟩

end TrackerQuery.Datum
